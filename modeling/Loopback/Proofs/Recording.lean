import Loopback.Proofs.Frame
import Loopback.Recording

/-! # What a recording holds

    However frames come to a recording, in blocks or one by one, it holds the first of them up to
    its capacity and has counted the others.

    * `Recording.Holds` states this for the frames offered since the recording was made.
    * `write` is `writeFrames` of the frames in the block (`write_eq_writeFrames`), so `Holds` has
      to be proved for single frames only.
-/

namespace Loopback.Recording

/-- Of the frames offered, the recording holds the first `capacity` ones, each fitted to `width`,
    and has counted the others. -/
structure Holds (r : Recording) (width capacity : Nat) (offered : List Frame) : Prop where
  channels_eq : r.channels = width
  capacity_eq : r.capacity = capacity
  frames_eq : r.frames.toList = (offered.map (Frame.fit width)).take capacity
  dropped_eq : r.dropped = offered.length - capacity

theorem holds_new (channels capacity : Nat) :
    (new channels capacity).Holds (max channels 1) capacity [] where
  channels_eq := rfl
  capacity_eq := rfl
  frames_eq := by simp [new]
  dropped_eq := by simp [new]

section

variable {r : Recording} {width capacity : Nat} {offered : List Frame}

theorem Holds.written_eq (h : r.Holds width capacity offered) :
    r.written = min capacity offered.length := by
  rw [written, ← Array.length_toList, h.frames_eq, List.length_take, List.length_map]

/-- One more frame is held if there is room, and else counted. -/
theorem Holds.writeFrame (h : r.Holds width capacity offered) (f : Frame) :
    (r.writeFrame f).1.Holds width capacity (offered ++ [f]) := by
  have hwritten := h.written_eq
  by_cases hroom : offered.length < capacity
  · have hfull : r.isFull = false := by
      simp only [isFull, hwritten, h.capacity_eq, decide_eq_false_iff_not]
      omega
    -- nothing was cut off so far, nor is it now
    have hmap : (offered.map (Frame.fit width)).length ≤ capacity := by
      rw [List.length_map]
      omega
    rw [Recording.writeFrame, hfull]
    refine ⟨h.channels_eq, h.capacity_eq, ?_, ?_⟩
    · simp only [Bool.false_eq_true, if_false, Array.toList_push, h.frames_eq, h.channels_eq,
        List.map_append, List.map_cons, List.map_nil]
      rw [List.take_of_length_le hmap, List.take_of_length_le]
      rw [List.length_append, List.length_singleton, List.length_map]
      omega
    · show r.dropped = _
      rw [h.dropped_eq, List.length_append, List.length_singleton]
      omega
  · -- the first frames are the same with or without one more after them
    have hfull : r.isFull = true := by
      simp only [isFull, hwritten, h.capacity_eq, decide_eq_true_eq]
      omega
    rw [Recording.writeFrame, hfull]
    refine ⟨h.channels_eq, h.capacity_eq, ?_, ?_⟩
    · show r.frames.toList = _
      rw [h.frames_eq, List.map_append, List.take_append_of_le_length]
      rw [List.length_map]
      omega
    · show r.dropped + 1 = _
      rw [h.dropped_eq, List.length_append, List.length_singleton]
      omega

theorem Holds.writeFrames (h : r.Holds width capacity offered) (frames : List Frame) :
    (r.writeFrames frames).Holds width capacity (offered ++ frames) := by
  induction frames generalizing r offered with
  | nil => simpa [Recording.writeFrames] using h
  | cons f frames ih =>
    have := ih (h.writeFrame f)
    rwa [List.append_assoc] at this

/-- Of frames that fit, the recording holds the first ones as they are. -/
theorem Holds.frames_of_length (h : r.Holds width capacity offered)
    (hlen : ∀ f ∈ offered, f.length = width) : r.frames.toList = offered.take capacity := by
  rw [h.frames_eq, Frame.map_fit_of_length hlen]

end

/-! ### Blocks -/

@[simp] theorem writeFrames_nil (r : Recording) : r.writeFrames [] = r := rfl

theorem writeFrames_cons (r : Recording) (f : Frame) (frames : List Frame) :
    r.writeFrames (f :: frames) = (r.writeFrame f).1.writeFrames frames := rfl

theorem writeFrames_append (r : Recording) (frames more : List Frame) :
    r.writeFrames (frames ++ more) = (r.writeFrames frames).writeFrames more := by
  simp [writeFrames, List.foldl_append]

/-- Writing no frames changes nothing. -/
theorem map_writeFrames_nil (recording : Option Recording) :
    recording.map (·.writeFrames []) = recording := by
  cases recording with
  | none => rfl
  | some r => rfl

theorem map_writeFrames_append (recording : Option Recording) (frames more : List Frame) :
    recording.map (·.writeFrames (frames ++ more))
      = (recording.map (·.writeFrames frames)).map (·.writeFrames more) := by
  cases recording with
  | none => rfl
  | some r => exact congrArg some (r.writeFrames_append frames more)

/-- Writing frames stores as many as there is room for, after those already stored, and counts the
    others. -/
theorem writeFrames_eq (r : Recording) (frames : List Frame) :
    r.writeFrames frames
      = { r with
          frames := r.frames ++ ((frames.take r.room).map (Frame.fit r.channels)).toArray
          dropped := r.dropped + (frames.length - r.room) } := by
  induction frames generalizing r with
  | nil => simp
  | cons f frames ih =>
    rw [writeFrames_cons, ih]
    by_cases hfull : r.capacity ≤ r.written
    · -- a full recording stays full
      have hroom : r.room = 0 := Nat.sub_eq_zero_of_le hfull
      have hroom' : ({ r with dropped := r.dropped + 1 } : Recording).room = 0 := hroom
      simp only [writeFrame, isFull, hfull, decide_true, if_true, hroom, hroom', List.take_zero,
        List.length_cons, Nat.sub_zero, Nat.add_assoc, Nat.add_comm 1]
    · -- the frame takes one place, and the others find one less
      have hroom : r.room = r.room - 1 + 1 := by
        unfold room
        omega
      have hroom' : ({ r with frames := r.frames.push (f.fit r.channels) } : Recording).room
          = r.room - 1 := by
        simp only [room, written, Array.size_push]
        omega
      simp only [writeFrame, isFull, hfull, decide_false, Bool.false_eq_true, if_false, hroom']
      rw [hroom, List.take_succ_cons]
      simp

/-- A block is stored as if its frames came one by one. -/
theorem write_eq_writeFrames (r : Recording) (data : List Sample) (count : Nat) :
    (r.write data count).1
      = r.writeFrames
          (Frame.cut r.channels (min count (Frame.available r.channels data)) data) := by
  have hlen : min count (Frame.available r.channels data) * r.channels ≤ data.length :=
    Frame.min_available_mul_le ..
  have hfit : ∀ f ∈ Frame.cut r.channels (min r.room
      (min count (Frame.available r.channels data))) data, f.length = r.channels := by
    intro f hf
    refine Frame.length_of_mem_cut ?_ hf
    exact Nat.le_trans (Nat.mul_le_mul_right _ (Nat.min_le_right ..)) hlen
  rw [writeFrames_eq, Frame.take_cut, Frame.map_fit_of_length hfit, Frame.length_cut]
  simp only [write, Nat.min_comm r.room]
  congr 1
  omega

end Loopback.Recording
