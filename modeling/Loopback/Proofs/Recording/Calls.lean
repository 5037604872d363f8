import Loopback.Proofs.Guarded.Recording
import Loopback.Proofs.Recording

/-! # Recordings under any mixture of calls

    Blocks and single frames may be written to a recording in any order.  Only the list of frames
    that they offer matters: the recording keeps the first of them, and each call returns how many
    of its own were kept.

    * `Call.offers` says which frames a call offers, independently of the recording's state.
    * `perform_eq_writeFrames` is the step: every call writes the frames that it offers, one by one.
      `run_eq_writeFrames` is the same for a run of calls.
    * `Store.run_eq` transfers a run to memory that was allocated beforehand, where nothing faults.
-/

namespace Loopback

namespace Recording

/-- A call that writes to a recording. -/
inductive Call where
  /-- A block of interleaved samples, said to hold a number of frames. -/
  | block (data : List Sample) (count : Nat)
  /-- One frame of any width. -/
  | frame (frame : Frame)
deriving DecidableEq, Repr

/-- The result of a call. -/
inductive Answer where
  /-- The number of frames of the block that were kept. -/
  | stored (count : Nat)
  /-- Whether the frame was kept. -/
  | fitted (kept : Bool)
deriving DecidableEq, Repr

namespace Call

/-- The frames that a call offers to a recording of some width: the whole frames of a block, up to
    the number it is said to hold, or the frame, cut or padded with silence. -/
def offers (width : Nat) : Call → List Frame
  | block data count =>
    (List.range (min count (data.length / width))).map fun i => (data.drop (i * width)).take width
  | frame f => [(List.range width).map fun channel => f.getD channel Sample.zero]

/-- The result of a call if there is room for a number of frames. -/
def answer (width room : Nat) : Call → Answer
  | block data count => .stored (min ((block data count).offers width).length room)
  | frame _ => .fitted (decide (0 < room))

theorem offers_block (width : Nat) (data : List Sample) (count : Nat) :
    (block data count).offers width
      = Frame.cut width (min count (Frame.available width data)) data :=
  (Frame.cut_eq_map ..).symm

theorem offers_frame (width : Nat) (f : Frame) : (frame f).offers width = [f.fit width] :=
  congrArg (fun g => [g]) (Frame.fit_eq_map ..).symm

theorem length_of_mem_offers {width : Nat} {call : Call} {f : Frame}
    (hf : f ∈ call.offers width) : f.length = width := by
  cases call with
  | block data count =>
    rw [offers_block] at hf
    exact Frame.length_of_mem_cut (Frame.min_available_mul_le ..) hf
  | frame g =>
    rw [offers_frame, List.mem_singleton] at hf
    rw [hf]
    exact Frame.length_fit ..

end Call

def perform (r : Recording) : Call → Recording × Answer
  | .block data count =>
    let (r, stored) := r.write data count
    (r, .stored stored)
  | .frame f =>
    let (r, kept) := r.writeFrame f
    (r, .fitted kept)

def run (r : Recording) (calls : List Call) : Recording :=
  calls.foldl (fun r call => (r.perform call).1) r

/-! ### Steps and runs -/

/-- Fitting a frame before it is written makes no difference. -/
theorem writeFrame_fit (r : Recording) (f : Frame) :
    (r.writeFrame (f.fit r.channels)).1 = (r.writeFrame f).1 := by
  have hfit : (f.fit r.channels).fit r.channels = f.fit r.channels :=
    Frame.fit_of_length (Frame.length_fit ..)
  unfold writeFrame
  rw [hfit]

/-- Every call writes the frames that it offers, one by one. -/
theorem perform_eq_writeFrames (r : Recording) (call : Call) :
    (r.perform call).1 = r.writeFrames (call.offers r.channels) := by
  cases call with
  | block data count =>
    rw [Call.offers_block]
    exact r.write_eq_writeFrames data count
  | frame f =>
    rw [Call.offers_frame, writeFrames_cons, writeFrames_nil, writeFrame_fit]
    rfl

theorem run_eq_writeFrames (r : Recording) (calls : List Call) :
    r.run calls = r.writeFrames (calls.flatMap (Call.offers r.channels)) := by
  induction calls generalizing r with
  | nil => rfl
  | cons call calls ih =>
    -- the width that the later calls find is still the same
    have hchannels : (r.perform call).1.channels = r.channels := by
      rw [perform_eq_writeFrames, writeFrames_eq]
    show (r.perform call).1.run calls = _
    rw [ih, hchannels, perform_eq_writeFrames, List.flatMap_cons, writeFrames_append]

/-- Writing frames one by one is a run of calls. -/
theorem run_map_frame (r : Recording) (frames : List Frame) :
    r.run (frames.map .frame) = r.writeFrames frames := by
  rw [run, List.foldl_map]
  rfl

/-- Later calls do not change what is kept. -/
theorem samples_prefix_run (r : Recording) (later : List Call) :
    r.samples <+: (r.run later).samples := by
  rw [run_eq_writeFrames, writeFrames_eq]
  simp only [samples, Array.toList_append, List.flatten_append]
  exact List.prefix_append ..

theorem holds_run (channels capacity : Nat) (calls : List Call) :
    ((new channels capacity).run calls).Holds (max channels 1) capacity
      (calls.flatMap (Call.offers (max channels 1))) := by
  rw [run_eq_writeFrames]
  exact (holds_new channels capacity).writeFrames _

section

variable {r : Recording} {width capacity : Nat} {offered : List Frame}

theorem Holds.room_eq (h : r.Holds width capacity offered) :
    r.room = capacity - offered.length := by
  rw [room, h.written_eq, h.capacity_eq]
  omega

theorem Holds.answer_eq (h : r.Holds width capacity offered) (call : Call) :
    (r.perform call).2 = call.answer width (capacity - offered.length) := by
  rw [← h.room_eq, ← h.channels_eq]
  cases call with
  | block data count =>
    rw [Call.answer, Call.offers_block, Frame.length_cut]
    rfl
  | frame f =>
    have hroom : 0 < r.room ↔ ¬r.capacity ≤ r.written := by
      unfold room
      omega
    by_cases hfull : r.capacity ≤ r.written
    · simp [perform, Recording.writeFrame, isFull, Call.answer, hroom, hfull]
    · simp [perform, Recording.writeFrame, isFull, Call.answer, hroom, hfull]

end

end Recording

/-! ### Runs in memory -/

namespace Store

def perform (s : Store) : Recording.Call → Except Fault Store
  | .block data count => s.write data count
  | .frame f => s.writeFrame f

/-- Allocates memory for a recording, then makes calls on it. -/
def run (channels capacity : Nat) (calls : List Recording.Call) : Except Fault Store := do
  let s ← prepare channels capacity
  calls.foldlM perform s

theorem of_perform {r : Recording} (h : r.Addressable) (call : Recording.Call) :
    (of r).perform call = .ok (of (r.perform call).1) := by
  cases call with
  | block data count => exact of_write h data count
  | frame f => exact of_writeFrame h f

theorem of_run {r : Recording} (h : r.Addressable) (calls : List Recording.Call) :
    calls.foldlM perform (of r) = .ok (of (r.run calls)) := by
  induction calls generalizing r with
  | nil => rfl
  | cons call calls ih =>
    have hnext : (r.perform call).1.Addressable := by
      rw [Recording.perform_eq_writeFrames]
      exact h.writeFrames _
    rw [List.foldlM_cons, of_perform h]
    exact ih hnext

/-- No call faults, and the memory is that of the recording after the same calls. -/
theorem run_eq {channels capacity : Nat} (h : max channels 1 * capacity < 2 ^ 64)
    (calls : List Recording.Call) :
    run channels capacity calls = .ok (of ((Recording.new channels capacity).run calls)) := by
  rw [run, prepare_eq h]
  exact of_run (Recording.addressable_new h) calls

/-- The samples that are written are at the front of the memory. -/
theorem take_samples_of {r : Recording} (h : r.Regular) :
    (of r).samples.take (r.written * r.channels) = r.samples :=
  List.take_left' h.length_samples

end Store

namespace Recording

/-- **A recording keeps the first frames that it is offered.** Blocks and single frames may be
    written in any mixture.  The recording keeps the first frames that they offer, as far as there
    is room, and counts the others.  Each call returns how many of its own frames were kept.
    Writing a block is writing its frames one by one, and what is kept never changes later.  In
    memory allocated for all frames, every call succeeds, and what is kept is at its front. -/
theorem keeps_first_offers {channels capacity : Nat}
    (hsize : max channels 1 * capacity < 2 ^ 64) (calls : List Call) :
    let width := max channels 1
    let offered := calls.flatMap (Call.offers width)
    let r := (new channels capacity).run calls
    r.samples = (offered.take capacity).flatten
      ∧ r.written = min capacity offered.length
      ∧ r.dropped = offered.length - r.written
      ∧ (r.isFull = true ↔ r.written = capacity)
      ∧ (∀ call, (r.perform call).2 = call.answer width (capacity - offered.length))
      ∧ (∀ data count,
          (r.write data count).1 = r.run (((Call.block data count).offers width).map .frame))
      ∧ (∀ later, r.samples <+: (r.run later).samples)
      ∧ ∃ s, Store.run channels capacity calls = .ok s
          ∧ s.samples.length = width * capacity
          ∧ s.samples.take (s.written * width) = r.samples
          ∧ s.written = r.written
          ∧ s.dropped = r.dropped := by
  intro width offered r
  have hholds : r.Holds width capacity offered := holds_run channels capacity calls
  have hregular : r.Regular := by
    simp only [r, run_eq_writeFrames]
    exact (regular_new channels capacity).writeFrames _
  have hwidth : ∀ f ∈ offered, f.length = width := by
    intro f hf
    obtain ⟨call, -, hmem⟩ := List.mem_flatMap.mp hf
    exact Call.length_of_mem_offers hmem
  have hwritten : r.written = min capacity offered.length := hholds.written_eq
  have hchannels : r.channels = width := hholds.channels_eq
  refine ⟨?_, hwritten, ?_, ?_, hholds.answer_eq, ?_, r.samples_prefix_run, ?_⟩
  · rw [samples, hholds.frames_of_length hwidth]
  · rw [hholds.dropped_eq]
    omega
  · rw [isFull_iff, hholds.capacity_eq]
    omega
  · intro data count
    rw [run_map_frame, ← hchannels]
    exact r.perform_eq_writeFrames (.block data count)
  · refine ⟨_, Store.run_eq hsize calls, ?_, ?_, rfl, rfl⟩
    · have hle := hregular.written_le
      show (r.samples ++ Frame.silence (r.room * r.channels)).length = _
      rw [List.length_append, hregular.length_samples, Frame.length_silence, ← Nat.add_mul,
        hchannels, room, Nat.add_sub_cancel' hle, hholds.capacity_eq, Nat.mul_comm]
    · rw [← hchannels]
      exact Store.take_samples_of hregular

/-- Two channels and room for three frames.  A narrow frame is written, then a block of two frames
    and a half that is said to hold nine, then a block with one frame more than there is room for,
    and finally a wide frame. -/
def mixedCalls : List Call :=
  [.frame [.half], .block [.one, .one, .half, .half, .negOne] 9,
    .block [.negOne, .one, .one, .negOne] 1, .frame [.one, .half, .negOne]]

/-- Three frames are kept and two are counted; a further block finds no room. -/
theorem keeps_first_offers_of_mixture :
    max 2 1 * 3 < 2 ^ 64
      ∧ ((new 2 3).run mixedCalls).samples = [.half, .zero, .one, .one, .half, .half]
      ∧ ((new 2 3).run mixedCalls).dropped = 2
      ∧ (((new 2 3).run mixedCalls).perform (.block [.one, .one] 1)).2 = .stored 0
      ∧ ∃ s, Store.run 2 3 mixedCalls = .ok s ∧ s.samples.length = 6 := by
  obtain ⟨hsamples, hwritten, hdropped, -, hanswer, -, -, s, hrun, hlength, -, -, -⟩ :=
    keeps_first_offers (show max 2 1 * 3 < 2 ^ 64 by decide) mixedCalls
  refine ⟨by decide, ?_, ?_, ?_, s, hrun, hlength⟩
  · rw [hsamples]
    decide
  · rw [hdropped, hwritten]
    decide
  · rw [hanswer]
    decide

end Recording

end Loopback
