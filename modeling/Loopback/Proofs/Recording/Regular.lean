import Loopback.Proofs.Recording

/-! # Regular recordings

    A recording is regular if every frame on it has its width, and there are no more of them than it
    has room for.  A new recording is regular, and stays so however it is written to.  Files and
    buffers need no other property of a recording.
-/

namespace Loopback.Recording

/-- The frames that are kept have the recording's width, and there is room for them. -/
structure Regular (r : Recording) : Prop where
  channels_pos : 0 < r.channels
  width_eq : ∀ f ∈ r.frames.toList, f.length = r.channels
  written_le : r.written ≤ r.capacity

theorem regular_new (channels capacity : Nat) : (new channels capacity).Regular where
  channels_pos := Nat.le_max_right ..
  width_eq := by simp [new]
  written_le := Nat.zero_le _

section

variable {r : Recording}

theorem Regular.length_samples (h : r.Regular) : r.samples.length = r.written * r.channels := by
  rw [samples, Frame.length_flatten h.width_eq, written, Array.length_toList]

theorem isFull_iff : r.isFull = true ↔ r.capacity ≤ r.written := by
  rw [isFull, decide_eq_true_eq]

/-- A frame that is kept is fitted to the width of the recording. -/
theorem Regular.writeFrame (h : r.Regular) (f : Frame) : (r.writeFrame f).1.Regular := by
  by_cases hfull : r.isFull = true
  · rw [Recording.writeFrame, if_pos hfull]
    exact ⟨h.channels_pos, h.width_eq, h.written_le⟩
  · rw [Recording.writeFrame, if_neg hfull]
    refine ⟨h.channels_pos, ?_, ?_⟩
    · intro g hg
      rw [Array.toList_push, List.mem_append, List.mem_singleton] at hg
      rcases hg with hg | rfl
      · exact h.width_eq g hg
      · exact Frame.length_fit ..
    · rw [isFull_iff] at hfull
      show (r.frames.push _).size ≤ r.capacity
      rw [Array.size_push]
      unfold written at hfull
      omega

theorem Regular.writeFrames (h : r.Regular) (frames : List Frame) :
    (r.writeFrames frames).Regular := by
  induction frames generalizing r with
  | nil => exact h
  | cons f frames ih => exact ih (h.writeFrame f)

end

end Loopback.Recording
