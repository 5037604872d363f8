import Loopback.Proofs.Callback.Chunks

/-! # What an output callback takes out of the ring

    An output callback that gets the lock takes all whole frames out of the ring, and passes them to
    the engine with the first chunk of its buffer.  So whatever leaves the ring is recorded, unless
    there is no chunk: an empty buffer has none, and the frames that were taken out are lost.

    * `Takes` says what left the ring and how much of it the engine has heard.
    * A callback has three cases: it finds the engine in use (`takes_of_held`), it fills a buffer
      (`takes_of_length_ne_zero`), or its buffer is empty (`takes_of_empty`).
    * `exists_takes` puts them together, and `renderCallback_takes_iff` states the same in terms of
      the counts before and after a callback.
-/

namespace Loopback

namespace Ring

/-- The samples of the whole frames in a ring. -/
def whole (r : Ring) (width : Nat) : List Sample :=
  r.items.toList.take (r.items.size / width * width)

theorem length_whole (r : Ring) (width : Nat) :
    (r.whole width).length = r.items.size / width * width := by
  rw [whole, List.length_take, Array.length_toList]
  exact Nat.min_eq_left (Nat.div_mul_le_self ..)

/-- Popping takes them off the front of the ring. -/
theorem whole_popFrames (r : Ring) (width : Nat) :
    r.items.toList = r.whole width ++ (r.popFrames width).1.items.toList
      ∧ (r.popFrames width).2 = r.whole width := by
  rw [popFrames_eq]
  exact ⟨(List.take_append_drop ..).symm, rfl⟩

end Ring

/-- A callback takes `taken` out of the ring.  The first `heard` frames of that, and no others, go
    into the recording and the count of recorded frames. -/
structure Takes (inputs : Nat) (before after : Engine × Ring) (taken : List Sample) (heard : Nat) :
    Prop where
  items_eq : before.2.items.toList = taken ++ after.2.items.toList
  recordedFrames_eq :
    after.1.monitor.recordedFrames = before.1.monitor.recordedFrames + heard
  recorded_eq :
    after.1.recorded = before.1.recorded.map (·.writeFrames (Frame.cut inputs heard taken))

namespace Takes

variable {inputs : Nat} {before after : Engine × Ring} {taken : List Sample} {heard : Nat}

/-- The counts before and after a callback tell what has left the ring and what was heard of it. -/
theorem account (h : Takes inputs before after taken heard) :
    before.2.items.size - after.2.items.size = taken.length
      ∧ before.2.items.toList.take (before.2.items.size - after.2.items.size) = taken
      ∧ after.1.monitor.recordedFrames - before.1.monitor.recordedFrames = heard := by
  have hsize : before.2.items.size = taken.length + after.2.items.size := by
    have hlength := congrArg List.length h.items_eq
    simpa only [List.length_append, Array.length_toList] using hlength
  have hremoved : before.2.items.size - after.2.items.size = taken.length := by omega
  refine ⟨hremoved, ?_, ?_⟩
  · rw [hremoved, h.items_eq, List.take_left]
  · rw [h.recordedFrames_eq, Nat.add_sub_cancel_left]

end Takes

/-- A callback gets the lock unless another thread holds it. -/
theorem EngineLock.admits_of_ne_held {lock : EngineLock} (h : lock ≠ .held) :
    lock.admits = true := by
  cases lock with
  | held => exact absurd rfl h
  | free => rfl
  | poisoned => rfl

section

variable {α : Type} (convert : Sample → α) (channels : ChannelCounts) {lock : EngineLock}
  (e : Engine) (ring : Ring)

/-- While the engine is in use, nothing leaves the ring. -/
theorem takes_of_held (hheld : lock.admits = false) (length : Nat) :
    let after := renderCallback convert channels lock e ring length
    Takes (max channels.input 1) (e, ring) (after.1, after.2.1) [] 0 := by
  intro after
  have hafter : after = (e.noteSkippedCallback, ring,
      List.replicate length (convert Sample.zero)) := by
    simp only [after, renderCallback, hheld, Bool.false_eq_true, if_false]
  rw [hafter]
  exact ⟨rfl, rfl, (Recording.map_writeFrames_nil e.recorded).symm⟩

/-- A callback with a nonempty buffer passes on what it takes, even if no frame fits into the
    buffer. -/
theorem takes_of_length_ne_zero (hadmits : lock.admits = true) {length : Nat} (hlen : length ≠ 0) :
    let inputs := max channels.input 1
    let after := renderCallback convert channels lock e ring length
    Takes inputs (e, ring) (after.1, after.2.1) (ring.whole inputs)
      (ring.items.size / inputs) := by
  intro inputs after
  have hinputs : 0 < inputs := Nat.le_max_right ..
  obtain ⟨hitems, hpop⟩ := ring.whole_popFrames inputs
  have hframes : (ring.whole inputs).length / inputs = ring.items.size / inputs := by
    rw [Ring.length_whole, Nat.mul_div_cancel _ hinputs]
  have hrender := renderCallback_of_admits convert channels hadmits e ring hlen
  simp only [inputs] at hpop hframes
  simp only [hpop, hframes] at hrender
  obtain ⟨cursor, position, hplaying⟩ :=
    e.afterPlaying_eq (max channels.output 1) (length / max channels.output 1)
  simp only [after, hrender, hplaying]
  refine ⟨hitems, ?_, rfl⟩
  simp only [Engine.afterHearing, Frame.length_cut, inputs]

/-- With an empty buffer the engine is not called, but the ring is emptied all the same. -/
theorem renderCallback_empty (hadmits : lock.admits = true) :
    renderCallback convert channels lock e ring 0
      = (e, (ring.popFrames (max channels.input 1)).1, []) := by
  have hchunks (channels : ChannelCounts) (captured : List Sample) :
      renderChunks convert channels e captured 0 = (e, []) := by
    rw [renderChunks, if_pos rfl]
  simp only [renderCallback, hadmits, if_true, hchunks]

theorem takes_of_empty (hadmits : lock.admits = true) :
    let inputs := max channels.input 1
    let after := renderCallback convert channels lock e ring 0
    Takes inputs (e, ring) (after.1, after.2.1) (ring.whole inputs) 0 := by
  intro inputs after
  have hafter : after = (e, (ring.popFrames inputs).1, []) :=
    renderCallback_empty convert channels e ring hadmits
  rw [hafter]
  exact ⟨(ring.whole_popFrames inputs).1, rfl, (Recording.map_writeFrames_nil e.recorded).symm⟩

/-- In every case a callback takes something.  All of it is heard exactly if the buffer is not
    empty, or the engine is in use, or the ring has no whole frame. -/
theorem exists_takes (lock : EngineLock) (length : Nat) :
    let inputs := max channels.input 1
    let after := renderCallback convert channels lock e ring length
    ∃ taken heard, Takes inputs (e, ring) (after.1, after.2.1) taken heard
      ∧ (taken.length = inputs * heard ↔ 0 < length ∨ lock = .held ∨ ring.items.size < inputs)
      ∧ (length = 0 → lock ≠ .held →
          taken.length = ring.items.size / inputs * inputs ∧ heard = 0) := by
  intro inputs after
  have hinputs : 0 < inputs := Nat.le_max_right ..
  by_cases hheld : lock = .held
  · refine ⟨[], 0, takes_of_held convert channels e ring (by rw [hheld]; rfl) length, ?_, ?_⟩
    · exact iff_of_true rfl (.inr (.inl hheld))
    · exact fun _ hfree => absurd hheld hfree
  · have hadmits := EngineLock.admits_of_ne_held hheld
    rcases Nat.eq_zero_or_pos length with rfl | hlen
    · refine ⟨_, 0, takes_of_empty convert channels e ring hadmits, ?_, ?_⟩
      · -- no whole frame has left the ring if there was none in it
        have hnone : ring.items.size / inputs * inputs = 0 ↔ ring.items.size < inputs := by
          rw [Nat.mul_eq_zero, Nat.div_eq_zero_iff]
          omega
        rw [Ring.length_whole, Nat.mul_zero, hnone]
        simp only [hheld, Nat.lt_irrefl, false_or]
      · exact fun _ _ => ⟨ring.length_whole inputs, rfl⟩
    · refine ⟨_, _, takes_of_length_ne_zero convert channels e ring hadmits (Nat.ne_of_gt hlen),
        ?_, ?_⟩
      · rw [Ring.length_whole]
        exact iff_of_true (Nat.mul_comm ..) (.inl hlen)
      · exact fun hempty => absurd hempty (Nat.ne_of_gt hlen)

end

/-- **What leaves the ring is recorded, unless the buffer is empty.** An output callback takes
    samples off the front of the ring.  Their number is that of the frames it adds to the recording
    and to the count of recorded frames, exactly if its buffer is not empty, or it finds the engine
    in use, or it finds no whole frame in the ring.  Otherwise all whole frames leave the ring, and
    none is recorded. -/
theorem renderCallback_takes_iff {α : Type} (convert : Sample → α) (channels : ChannelCounts)
    (lock : EngineLock) (e : Engine) (ring : Ring) (length : Nat) :
    let inputs := max channels.input 1
    let after := renderCallback convert channels lock e ring length
    let removed := ring.items.size - after.2.1.items.size
    let recorded := after.1.monitor.recordedFrames - e.monitor.recordedFrames
    let taken := ring.items.toList.take removed
    ring.items.toList = taken ++ after.2.1.items.toList
      ∧ after.1.recorded = e.recorded.map (·.writeFrames (Frame.cut inputs recorded taken))
      ∧ after.1.monitor.recordedFrames = e.monitor.recordedFrames + recorded
      ∧ (removed = inputs * recorded
          ↔ 0 < length ∨ lock = .held ∨ ring.items.size < inputs)
      ∧ (length = 0 → lock ≠ .held →
          removed = ring.items.size / inputs * inputs ∧ recorded = 0) := by
  intro inputs after removed recorded taken
  obtain ⟨front, heard, htakes, hwhole, hempty⟩ := exists_takes convert channels e ring lock length
  obtain ⟨hremoved, htaken, hrecorded⟩ :
      removed = front.length ∧ taken = front ∧ recorded = heard :=
    htakes.account
  rw [htaken, hremoved, hrecorded]
  exact ⟨htakes.items_eq, htakes.recorded_eq, htakes.recordedFrames_eq, hwhole, hempty⟩

/-- An engine that was just started, on a stream with one channel each way. -/
def startedEngine : Engine :=
  let link : OfflineLink :=
    { output := { rate := 1000, channels := 1 }, input := { rate := 1000, channels := 1 } }
  ((Engine.new { maxRecordSeconds := 1, peakDecay := .one }).start link).1

def twoFrameRing : Ring := { capacity := 8, items := #[.half, ⟨0x3e800000⟩] }

/-- Of two callbacks the first has an empty buffer and takes both frames out of the ring; the second
    one finds nothing there, and the frames are never recorded. -/
theorem empty_buffer_loses_frames :
    let channels : ChannelCounts := { input := 1, output := 1 }
    let first := renderCallback id channels .free startedEngine twoFrameRing 0
    let second := renderCallback id channels .free first.1 first.2.1 1
    twoFrameRing.items.size - first.2.1.items.size = 2
      ∧ first.1.monitor.recordedFrames - startedEngine.monitor.recordedFrames = 0
      ∧ second.1.monitor.recordedFrames = 0 := by
  intro channels first second
  have hpop : (twoFrameRing.popFrames 1).1 = .new 8 := by decide
  have hfirst : first = (startedEngine, .new 8, []) :=
    (renderCallback_empty id channels startedEngine twoFrameRing rfl).trans (by rw [← hpop]; rfl)
  have hsecond : Takes 1 (first.1, first.2.1) (second.1, second.2.1) _ _ :=
    takes_of_length_ne_zero id channels first.1 first.2.1 rfl (by decide)
  have hcount := hsecond.recordedFrames_eq
  rw [hfirst] at hcount ⊢
  exact ⟨by decide, by decide, hcount.trans (by decide)⟩

end Loopback
