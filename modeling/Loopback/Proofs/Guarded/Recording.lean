import Loopback.Proofs.Guarded.Memory
import Loopback.Proofs.Recording.Regular

/-! # Recordings in memory

    A recording keeps its samples in memory that was allocated for all the frames it may hold.  A
    `Store` is such a recording: a write computes the place of the samples and copies them there,
    and may fault.

    * `Store.of` is a recording laid out in memory: the samples that are written, then silence.
    * `Addressable` says that the samples of a regular recording can be counted in 64 bits.  Then
      nothing faults, and the memory after a write is that of the recording after the write
      (`of_write`, `of_writeFrame`).

    Dropped frames are counted by natural numbers, since nothing is addressed by their count.
-/

namespace Loopback

structure Store where
  /-- Samples in a frame. -/
  channels : Nat
  /-- The most frames that are kept. -/
  capacity : Nat
  /-- The memory for all of them. -/
  samples : List Sample
  /-- The frames kept so far. -/
  written : Nat
  /-- Frames that came when there was no room. -/
  dropped : Nat
deriving DecidableEq, Repr, Inhabited

/-- A recording whose samples can be counted in 64 bits. -/
structure Recording.Addressable (r : Recording) : Prop extends r.Regular where
  size_lt : r.channels * r.capacity < 2 ^ 64

namespace Store

open Guarded

/-- Allocates memory for a number of frames. -/
def prepare (channels capacity : Nat) : Except Fault Store := do
  let channels := max channels 1
  let size ← mul channels capacity
  .ok { channels, capacity, samples := Frame.silence size, written := 0, dropped := 0 }

/-- Copies the first frames of a block, if there are any, after those that are written. -/
def put (s : Store) (data : List Sample) (stored : Nat) : Except Fault Store := do
  if 0 < stored then do
    let start ← mul s.written s.channels
    let length ← mul stored s.channels
    let stop ← add start length
    let block ← slice data 0 length
    let samples ← copy s.samples start stop block
    let written ← add s.written stored
    .ok { s with samples, written }
  else .ok s

/-- Stores the first frames of a block, up to the number given and as far as there is room. -/
def write (s : Store) (data : List Sample) (count : Nat) : Except Fault Store := do
  let available ← div data.length s.channels
  let requested := min count available
  let room ← sub s.capacity s.written
  let stored := min requested room
  let s ← s.put data stored
  let late ← sub requested stored
  .ok { s with dropped := s.dropped + late }

/-- Overwrites a place of some width with a frame of any width, cut or padded with silence. -/
def lay (place : List Sample) (width : Nat) (frame : Frame) : Except Fault (List Sample) := do
  let copied := min frame.length width
  let front ← slice frame 0 copied
  let place ← copy place 0 copied front
  silenceFrom place copied

/-- Stores one frame of any width after those that are written. -/
def writeFrame (s : Store) (frame : Frame) : Except Fault Store := do
  if s.capacity ≤ s.written then .ok { s with dropped := s.dropped + 1 }
  else do
    let start ← mul s.written s.channels
    let stop ← add start s.channels
    let place ← slice s.samples start stop
    let place ← lay place s.channels frame
    let samples ← copy s.samples start stop place
    let written ← add s.written 1
    .ok { s with samples, written }

/-- Stores what was heard: as one block if the widths agree, else frame by frame. -/
def record (s : Store) (heard : List Sample) (count channels : Nat) : Except Fault Store := do
  if s.channels = channels then s.write heard count
  else do
    let frames ← Guarded.frames channels heard
    frames.foldlM writeFrame s

def of (r : Recording) : Store :=
  { channels := r.channels
    capacity := r.capacity
    samples := r.samples ++ Frame.silence (r.room * r.channels)
    written := r.written
    dropped := r.dropped }

@[simp] theorem channels_of (r : Recording) : (of r).channels = r.channels := rfl

@[simp] theorem capacity_of (r : Recording) : (of r).capacity = r.capacity := rfl

@[simp] theorem written_of (r : Recording) : (of r).written = r.written := rfl

theorem prepare_eq {channels capacity : Nat} (h : max channels 1 * capacity < 2 ^ 64) :
    prepare channels capacity = .ok (of (.new channels capacity)) := by
  simp only [prepare, bind, Except.bind, mul_of_lt h, of, Recording.new, Recording.samples,
    Recording.room, Recording.written]
  simp [Nat.mul_comm]

end Store

namespace Recording

variable {r : Recording}

theorem addressable_new {channels capacity : Nat} (h : max channels 1 * capacity < 2 ^ 64) :
    (new channels capacity).Addressable where
  toRegular := regular_new channels capacity
  size_lt := h

/-- Writing frames keeps a recording addressable. -/
theorem Addressable.writeFrames (h : r.Addressable) (frames : List Frame) :
    (r.writeFrames frames).Addressable where
  toRegular := h.toRegular.writeFrames frames
  size_lt := by
    rw [writeFrames_eq]
    exact h.size_lt

/-- The end of the written samples fits into 64 bits. -/
theorem Addressable.stop_lt (h : r.Addressable) {stored : Nat} (hroom : stored ≤ r.room) :
    r.written * r.channels + stored * r.channels < 2 ^ 64 := by
  have hwritten := h.written_le
  have hle : (r.written + stored) * r.channels ≤ r.capacity * r.channels := by
    apply Nat.mul_le_mul_right
    unfold room at hroom
    omega
  rw [Nat.add_mul, Nat.mul_comm r.capacity] at hle
  exact Nat.lt_of_le_of_lt hle h.size_lt

/-- The number of frames does, too. -/
theorem Addressable.capacity_lt (h : r.Addressable) : r.capacity < 2 ^ 64 :=
  Nat.lt_of_le_of_lt (Nat.le_mul_of_pos_left _ h.channels_pos) h.size_lt

end Recording

namespace Store

open Guarded

section

variable {r : Recording}

/-- The memory after the written samples has room for further frames. -/
theorem samples_of {stored : Nat} (hroom : stored ≤ r.room) :
    (of r).samples
      = r.samples ++ (Frame.silence (stored * r.channels)
          ++ Frame.silence ((r.room - stored) * r.channels)) := by
  have hsplit : r.room = stored + (r.room - stored) := by omega
  rw [← Frame.silence_add, ← Nat.add_mul, ← hsplit]
  rfl

/-- Samples for further frames are copied there. -/
theorem copy_of (h : r.Addressable) {stored : Nat} (hroom : stored ≤ r.room) (data : List Sample)
    (hlength : data.length = stored * r.channels) :
    copy (of r).samples (r.written * r.channels)
        (r.written * r.channels + stored * r.channels) data
      = .ok (r.samples ++ (data ++ Frame.silence ((r.room - stored) * r.channels))) := by
  rw [samples_of hroom]
  apply copy_append
  · exact h.length_samples.symm
  · rw [Frame.length_silence]
  · rw [Frame.length_silence, hlength]

/-- The memory of a recording after further frames. -/
theorem of_append (frames : List Frame) (dropped : Nat) :
    of { r with frames := r.frames ++ frames.toArray, dropped }
      = { of r with
          samples := r.samples ++ (frames.flatten
            ++ Frame.silence ((r.room - frames.length) * r.channels))
          written := r.written + frames.length
          dropped } := by
  have hwritten : ({ r with frames := r.frames ++ frames.toArray, dropped } : Recording).written
      = r.written + frames.length := by
    simp only [Recording.written, Array.size_append, List.size_toArray]
  have hroom : ({ r with frames := r.frames ++ frames.toArray, dropped } : Recording).room
      = r.room - frames.length := by
    rw [Recording.room, hwritten, Nat.sub_add_eq]
    rfl
  have hsamples : ({ r with frames := r.frames ++ frames.toArray, dropped } : Recording).samples
      = r.samples ++ frames.flatten := by
    simp [Recording.samples]
  rw [of, hwritten, hroom, hsamples, List.append_assoc]
  rfl

/-- Frames for which there is room can be put into memory. -/
theorem of_put (h : r.Addressable) (data : List Sample) {stored : Nat} (hroom : stored ≤ r.room)
    (hlength : stored * r.channels ≤ data.length) :
    (of r).put data stored
      = .ok (of { r with frames := r.frames ++ (Frame.cut r.channels stored data).toArray }) := by
  have hstop := h.stop_lt hroom
  have hwritten : r.written + stored < 2 ^ 64 := by
    have hcapacity := h.capacity_lt
    have hle := h.written_le
    unfold Recording.room at hroom
    omega
  have hblock := slice_take hlength
  have hcopy := copy_of h hroom (data.take (stored * r.channels))
    (by rw [List.length_take, Nat.min_eq_left hlength])
  have hstart := mul_of_lt (Nat.lt_of_add_right_lt hstop)
  have hcount := mul_of_lt (Nat.lt_of_add_left_lt hstop)
  have hresult := of_append (r := r) (Frame.cut r.channels stored data) r.dropped
  rw [Frame.flatten_cut hlength, Frame.length_cut] at hresult
  rw [hresult]
  by_cases hsome : 0 < stored
  · simp only [put, bind, Except.bind, channels_of, written_of, hsome, if_true, hstart, hcount,
      add_of_lt hstop, hblock, hcopy, add_of_lt hwritten]
    rfl
  · -- a block without frames is not copied, and would change nothing
    have hnone : stored = 0 := by omega
    simp [put, hnone, of]

/-- **Writing a block in memory never faults**, and has the same result. -/
theorem of_write (h : r.Addressable) (data : List Sample) (count : Nat) :
    (of r).write data count = .ok (of (r.write data count).1) := by
  have hdiv : div data.length r.channels = .ok (Frame.available r.channels data) :=
    div_of_pos h.channels_pos
  have hsub : sub r.capacity r.written = .ok r.room := sub_of_le h.written_le
  have hlength : min (min count (Frame.available r.channels data)) r.room * r.channels
      ≤ data.length := by
    exact Nat.le_trans (Nat.mul_le_mul_right _ (Nat.min_le_left ..)) (Frame.min_available_mul_le ..)
  have hput := of_put h data (Nat.min_le_right ..) hlength
  simp only [write, bind, Except.bind, channels_of, capacity_of, written_of, hdiv, hsub, hput,
    sub_of_le (Nat.min_le_left ..)]
  rfl

/-- A frame is fitted to the place that it is written to. -/
theorem lay_silence (width : Nat) (f : Frame) :
    lay (Frame.silence width) width f = .ok (f.fit width) := by
  let copied := min f.length width
  have hfront : (f.take copied).length = copied := by
    rw [List.length_take]
    exact Nat.min_eq_left (Nat.min_le_left ..)
  have hslice : slice f 0 copied = .ok (f.take copied) := slice_take (Nat.min_le_left ..)
  have hcopy : copy (Frame.silence width) 0 copied (f.take copied)
      = .ok (f.take copied ++ Frame.silence (width - copied)) := by
    have hplace : Frame.silence width
        = [] ++ (Frame.silence copied ++ Frame.silence (width - copied)) := by
      have hwidth : width = copied + (width - copied) := by omega
      rw [List.nil_append, ← Frame.silence_add, ← hwidth]
    rw [hplace]
    apply copy_append
    · rfl
    · rw [Frame.length_silence, Nat.zero_add]
    · rw [Frame.length_silence, hfront]
  have hpad := silenceFrom_append (Frame.silence (width - copied)) hfront.symm
  rw [Frame.length_silence] at hpad
  have hfit : f.take copied ++ Frame.silence (width - copied) = f.fit width := by
    have htake : f.take copied = f.take width := by
      rw [List.take_eq_take_iff]
      omega
    have hrest : width - copied = width - f.length := by omega
    rw [htake, hrest]
    rfl
  rw [← hfit]
  simp only [copied] at hslice hcopy hpad ⊢
  simp only [lay, bind, Except.bind, hslice, hcopy, hpad]

/-- **Writing a frame in memory never faults**, and has the same result. -/
theorem of_writeFrame (h : r.Addressable) (f : Frame) :
    (of r).writeFrame f = .ok (of (r.writeFrame f).1) := by
  by_cases hfull : r.capacity ≤ r.written
  · have hlate : (r.writeFrame f).1 = { r with dropped := r.dropped + 1 } := by
      simp [Recording.writeFrame, Recording.isFull, hfull]
    rw [hlate]
    exact if_pos hfull
  · have hroom : 1 ≤ r.room := by
      unfold Recording.room
      omega
    have hfits : (r.writeFrame f).1
        = { r with frames := r.frames ++ [f.fit r.channels].toArray } := by
      simp [Recording.writeFrame, Recording.isFull, hfull]
    have hstop := h.stop_lt hroom
    have hwritten : r.written + 1 < 2 ^ 64 := by
      have hcapacity := h.capacity_lt
      omega
    have hstart := mul_of_lt (Nat.lt_of_add_right_lt hstop)
    have hplace : slice (of r).samples (r.written * r.channels)
        (r.written * r.channels + 1 * r.channels) = .ok (Frame.silence (1 * r.channels)) := by
      rw [samples_of hroom]
      exact slice_append _ h.length_samples.symm (by rw [Frame.length_silence])
    have hcopy := copy_of h hroom (f.fit r.channels) (by rw [Frame.length_fit, Nat.one_mul])
    have hresult := of_append (r := r) [f.fit r.channels] r.dropped
    rw [List.flatten_singleton, List.length_singleton] at hresult
    rw [Nat.one_mul] at hstop hplace hcopy
    rw [hfits, hresult]
    simp only [writeFrame, bind, Except.bind, channels_of, capacity_of, written_of, hfull, if_false,
      hstart, add_of_lt hstop, hplace, lay_silence, hcopy, add_of_lt hwritten]
    rfl

theorem of_writeFrames (h : r.Addressable) (frames : List Frame) :
    frames.foldlM writeFrame (of r) = .ok (of (r.writeFrames frames)) := by
  induction frames generalizing r with
  | nil => rfl
  | cons f frames ih =>
    have hnext : (r.writeFrame f).1.Addressable := h.writeFrames [f]
    rw [List.foldlM_cons, of_writeFrame h]
    exact ih hnext

/-- In either way, what was heard is stored frame by frame. -/
theorem of_record (h : r.Addressable) {heard : List Sample} {count channels : Nat}
    (hpos : 0 < channels) (hlength : heard.length = count * channels) :
    (of r).record heard count channels
      = .ok (of (r.writeFrames (Frame.cut channels count heard))) := by
  have hcount : heard.length / channels = count := by
    rw [hlength, Nat.mul_div_cancel _ hpos]
  by_cases hwidth : r.channels = channels
  · have hall : min count (Frame.available r.channels heard) = count := by
      rw [Frame.available, hwidth, hcount, Nat.min_self]
    have hwrite := of_write h heard count
    rw [Recording.write_eq_writeFrames, hall, hwidth] at hwrite
    exact (if_pos hwidth).trans hwrite
  · have hframes := of_writeFrames h (Frame.cut channels count heard)
    refine (if_neg hwidth).trans ?_
    rw [frames_of_pos hpos, hcount]
    exact hframes

end

/-- A write to memory that is too small faults. -/
example :
    writeFrame { channels := 2, capacity := 1, samples := [], written := 0, dropped := 0 } [.one]
      = .error .outOfRange := rfl

end Store

end Loopback
