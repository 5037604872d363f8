import Loopback.Proofs.Callback.Drained

/-! # What callbacks do to a ring of whole frames

    The input callback brings frames to the ring, some of which may find no room.  The output
    callback leaves the ring as it is, or takes everything out.  So whatever a callback leaves in
    the ring, and whatever it has made the engine record, was in the ring before or has come with
    the callback.

    * `Callback` is a callback in either direction, and `Callback.exchange` is its effect on the
      engine and the ring.
    * `renderCallback_frames` is the output callback; `Callback.exchange_frames` puts both together.
-/

namespace Loopback

inductive Callback where
  /-- The input stream brings samples. -/
  | capture (data : DeviceBuffer)
  /-- The output stream asks for samples. -/
  | render (lock : EngineLock) (length : Nat)

def DeviceBuffer.samples : DeviceBuffer → List Sample
  | f32 samples => samples
  | i16 samples => samples.map Sample.ofInt16
  | u16 samples => samples.map Sample.ofUInt16

namespace Callback

/-- The whole frames that a callback brings. -/
def frames (width : Nat) : Callback → List Frame
  | capture data => Frame.cut width (Frame.available width data.samples) data.samples
  | render _ _ => []

/-- The effect of a callback on the engine and the ring. -/
def exchange (format : SampleFormat) (channels : ChannelCounts) (e : Engine) (ring : Ring) :
    Callback → Engine × Ring
  | capture data => captureBuffer channels.input e ring data
  | render lock length =>
    let (e, ring, _) := renderBuffer format channels lock e ring length
    (e, ring)

end Callback

/-! ### The input callback -/

/-- The format of a buffer matters to the conversion only. -/
theorem captureBuffer_eq (channels : Nat) (e : Engine) (ring : Ring) (data : DeviceBuffer) :
    captureBuffer channels e ring data = captureCallback id channels e ring data.samples := by
  cases data with
  | f32 samples => rfl
  | i16 samples => simp [captureBuffer, captureCallback, DeviceBuffer.samples]
  | u16 samples => simp [captureBuffer, captureCallback, DeviceBuffer.samples]

/-- The accepted frames are among those offered, in order. -/
theorem Ring.accepted_offers_sublist (r : Ring) (frames : List Frame) :
    (accepted (r.offers frames)).Sublist frames := by
  have hoffers : ((r.offers frames).filter (·.accepted)).Sublist (r.offers frames) :=
    List.filter_sublist
  have hframes := hoffers.map (·.frame)
  rwa [map_frame_offers] at hframes

/-! ### The output callback -/

section

variable {width : Nat} {ring : Ring} {waiting : List Frame} (h : ring.Frames width waiting)

include h

/-- In a ring of whole frames, these are all its samples. -/
theorem Ring.Frames.whole_eq (hpos : 0 < width) : ring.whole width = waiting.flatten := by
  rw [← (ring.whole_popFrames width).2, h.popFrames_eq hpos]

theorem Ring.Frames.cut_whole (hpos : 0 < width) :
    Frame.cut width (ring.items.size / width) (ring.whole width) = waiting := by
  rw [h.whole_eq hpos, ← h.items_eq, h.cut_eq hpos]

/-- Once all whole frames are taken out, nothing is left. -/
theorem Takes.frames_nil (hpos : 0 < width) {e : Engine} {after : Engine × Ring} {heard : Nat}
    (htakes : Takes width (e, ring) after (ring.whole width) heard) : after.2.Frames width [] := by
  have hitems : waiting.flatten = waiting.flatten ++ after.2.items.toList := by
    rw [← h.whole_eq hpos, ← htakes.items_eq, h.whole_eq hpos, h.items_eq]
  exact ⟨List.self_eq_append_right.mp hitems, by simp⟩

end

/-- What an output callback finds in the ring stays there, or is recorded by the engine, or is lost.
    -/
theorem renderCallback_frames {α : Type} (convert : Sample → α) (channels : ChannelCounts)
    (lock : EngineLock) (e : Engine) {ring : Ring} {waiting : List Frame}
    (h : ring.Frames (max channels.input 1) waiting) (length : Nat) :
    let after := renderCallback convert channels lock e ring length
    ∃ heard left, (heard ++ left).Sublist waiting
      ∧ after.1.recorded = e.recorded.map (·.writeFrames heard)
      ∧ after.2.1.Frames (max channels.input 1) left := by
  intro after
  have hpos : 0 < max channels.input 1 := Nat.le_max_right ..
  cases hadmits : lock.admits with
  | false =>
    -- the engine is in use, and nothing leaves the ring
    have htakes := takes_of_held convert channels e ring hadmits length
    refine ⟨[], waiting, List.Sublist.refl _, ?_, ?_, h.width_eq⟩
    · simpa using htakes.recorded_eq
    · rw [← h.items_eq]
      exact htakes.items_eq.symm
  | true =>
    rcases Nat.eq_zero_or_pos length with rfl | hlen
    · -- what is taken out for an empty buffer is lost
      have htakes := takes_of_empty convert channels e ring hadmits
      refine ⟨[], [], List.nil_sublist _, ?_, htakes.frames_nil h hpos⟩
      simpa using htakes.recorded_eq
    · have htakes := takes_of_length_ne_zero convert channels e ring hadmits (Nat.ne_of_gt hlen)
      refine ⟨waiting, [], by simp, ?_, htakes.frames_nil h hpos⟩
      rw [htakes.recorded_eq, h.cut_whole hpos]

theorem renderBuffer_frames (format : SampleFormat) (channels : ChannelCounts) (lock : EngineLock)
    (e : Engine) {ring : Ring} {waiting : List Frame}
    (h : ring.Frames (max channels.input 1) waiting) (length : Nat) :
    let after := renderBuffer format channels lock e ring length
    ∃ heard left, (heard ++ left).Sublist waiting
      ∧ after.1.recorded = e.recorded.map (·.writeFrames heard)
      ∧ after.2.1.Frames (max channels.input 1) left := by
  unfold renderBuffer
  split
  · exact renderCallback_frames Sample.toInt16 channels lock e h length
  · exact renderCallback_frames Sample.toUInt16 channels lock e h length
  · exact renderCallback_frames id channels lock e h length

/-! ### Either callback -/

/-- **Callbacks make up no frames.** The frames that the engine records and then the frames left in
    the ring were in the ring before or have come with the callback. -/
theorem Callback.exchange_frames (format : SampleFormat) {channels : ChannelCounts}
    (hpos : 0 < channels.input) (e : Engine) {ring : Ring} {waiting : List Frame}
    (h : ring.Frames channels.input waiting) (c : Callback) :
    let after := exchange format channels e ring c
    ∃ heard left, (heard ++ left).Sublist (waiting ++ c.frames channels.input)
      ∧ after.1.recorded = e.recorded.map (·.writeFrames heard)
      ∧ after.2.Frames channels.input left := by
  have hwidth : max channels.input 1 = channels.input := Nat.max_eq_left hpos
  cases c with
  | capture data =>
    let frames := (capture data).frames channels.input
    have hframes : ∀ f ∈ frames, f.length = channels.input := fun f hf =>
      Frame.length_of_mem_cut (Frame.available_mul_le ..) hf
    have hcapture : exchange format channels e ring (capture data)
        = (e.noteDroppedInput (ring.pushFrames frames).2, (ring.pushFrames frames).1) := by
      simp only [exchange, captureBuffer_eq, captureCallback, hwidth, List.map_id, frames,
        Callback.frames]
    simp only [hcapture]
    refine ⟨[], waiting ++ Ring.accepted (ring.offers frames), ?_, ?_, (h.pushFrames hframes).1⟩
    · exact (ring.accepted_offers_sublist frames).append_left waiting
    · exact (Recording.map_writeFrames_nil _).symm
  | render lock length =>
    rw [← hwidth] at h ⊢
    obtain ⟨heard, left, hsub, hrecorded, hleft⟩ :=
      renderBuffer_frames format channels lock e h length
    exact ⟨heard, left, by rwa [frames, List.append_nil], hrecorded, hleft⟩

end Loopback
