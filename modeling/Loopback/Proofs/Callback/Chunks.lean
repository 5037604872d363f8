import Loopback.Callback
import Loopback.Proofs.Engine.Process
import Loopback.Proofs.Ring

/-! # Rendering in chunks

    The output callback fills its buffer in chunks, and each chunk is a call of the engine.  The
    result is that of a single call: playing composes, the first chunk hears everything that was
    captured, and hearing nothing changes nothing.

    * `renderChunks_eq` gives the whole loop as one round of playing and one of listening.
    * `renderCallback_eq_process` compares the callback with one call of the engine.
-/

namespace Loopback

/-- One call of the engine over a silent buffer that is filled to its end. -/
theorem process_silence (e : Engine) (captured : List Sample) (count : Nat)
    {channels : ChannelCounts} (hin : 0 < channels.input) (hout : 0 < channels.output) :
    e.process captured (captured.length / channels.input)
        (Frame.silence (count * channels.output)) count channels
      = ((e.afterPlaying channels.output count).afterHearing
            (Frame.cut channels.input (captured.length / channels.input) captured),
          e.block channels.output count) :=
  e.process_full captured hin hout (Frame.length_silence _)

/-- The two directions of a chunk that is followed by another chunk without input. -/
theorem afterHearing_then_afterPlaying (e : Engine) (frames : List Frame) (channels m n : Nat) :
    (((e.afterPlaying channels m).afterHearing frames).afterPlaying channels n)
      = (e.afterPlaying channels (m + n)).afterHearing frames := by
  rw [← Engine.afterHearing_afterPlaying, Engine.afterPlaying_add]

/-- **The chunks of a buffer are one call**: the frames that the buffer has room for are played, and
    what was captured is heard once. -/
theorem renderChunks_eq {α : Type} (convert : Sample → α) {channels : ChannelCounts}
    (hin : 0 < channels.input) (hout : 0 < channels.output) (e : Engine)
    (captured : List Sample) (length : Nat) (hlen : length ≠ 0) :
    renderChunks convert channels e captured length
      = ((e.afterPlaying channels.output (length / channels.output)).afterHearing
            (Frame.cut channels.input (captured.length / channels.input) captured),
          (e.block channels.output (length / channels.output)).map convert
            ++ List.replicate (length % channels.output) (convert Sample.zero)) := by
  -- the loop takes off a chunk at a time, so the induction is on what is left of the buffer
  induction length using Nat.strongRecOn generalizing e captured with
  | ind length ih =>
    have hmax : max channels.output 1 = channels.output := Nat.max_eq_left hout
    rw [renderChunks, if_neg hlen]
    simp only [hmax, process_silence e captured _ hin hout]
    by_cases hlast : length ≤ maxCallbackFrames * channels.output
    · -- the last chunk is what is left
      have hchunk : min length (maxCallbackFrames * channels.output) = length :=
        Nat.min_eq_left hlast
      have hrest : length - length / channels.output * channels.output
          = length % channels.output := by
        have := Nat.div_add_mod length channels.output
        rw [Nat.mul_comm] at this
        omega
      rw [hchunk, hrest, Nat.sub_self, renderChunks, if_pos rfl, List.append_nil]
    · have hchunk : min length (maxCallbackFrames * channels.output)
          = maxCallbackFrames * channels.output := Nat.min_eq_right (by omega)
      have hframes : maxCallbackFrames * channels.output / channels.output = maxCallbackFrames :=
        Nat.mul_div_cancel _ hout
      have hpos : 0 < maxCallbackFrames * channels.output :=
        Nat.mul_pos (by decide) hout
      obtain ⟨left, rfl⟩ : ∃ left, length = maxCallbackFrames * channels.output + left :=
        ⟨length - maxCallbackFrames * channels.output, by omega⟩
      have hdiv : (maxCallbackFrames * channels.output + left) / channels.output
          = maxCallbackFrames + left / channels.output := by
        rw [Nat.mul_comm, Nat.mul_add_div hout]
      have hmod : (maxCallbackFrames * channels.output + left) % channels.output
          = left % channels.output := by
        rw [Nat.mul_comm, Nat.mul_add_mod]
      rw [hchunk, hframes, Nat.sub_self, Nat.add_sub_cancel_left,
        ih left (by omega) _ [] (by omega), hdiv, hmod]
      have hsilent : Frame.cut channels.input (([] : List Sample).length / channels.input) []
          = [] := by simp
      rw [hsilent, Engine.afterHearing_nil, afterHearing_then_afterPlaying,
        Engine.block_afterHearing, Engine.block_add]
      simp

/-- The output callback when it gets the lock. -/
theorem renderCallback_of_admits {α : Type} (convert : Sample → α) (channels : ChannelCounts)
    {lock : EngineLock} (hadmits : lock.admits = true) (e : Engine) (ring : Ring) {length : Nat}
    (hlen : length ≠ 0) :
    let inputs := max channels.input 1
    let outputs := max channels.output 1
    let captured := (ring.popFrames inputs).2
    renderCallback convert channels lock e ring length
      = ((e.afterPlaying outputs (length / outputs)).afterHearing
            (Frame.cut inputs (captured.length / inputs) captured),
          (ring.popFrames inputs).1,
          (e.block outputs (length / outputs)).map convert
            ++ List.replicate (length % outputs) (convert Sample.zero)) := by
  intro inputs outputs captured
  let widened : ChannelCounts := { input := inputs, output := outputs }
  have hin : 0 < widened.input := Nat.le_max_right ..
  have hout : 0 < widened.output := Nat.le_max_right ..
  have hchunks := renderChunks_eq convert hin hout e captured length hlen
  rw [renderCallback, if_pos hadmits]
  show ((renderChunks convert widened e captured length).1, (ring.popFrames inputs).1,
    (renderChunks convert widened e captured length).2) = _
  rw [hchunks]

/-- **Chunking is invisible.** If the callback gets the lock, it leaves the engine and the ring as
    one call of the engine does that is given all whole frames of the ring and has room for the
    whole frames of the buffer.  The buffer holds the converted output of that call, and the
    conversion of silence after its last whole frame. -/
theorem renderCallback_eq_process {α : Type} (convert : Sample → α) (channels : ChannelCounts)
    (hin : 0 < channels.input) (hout : 0 < channels.output) (lock : EngineLock)
    (hlock : lock ≠ .held) (e : Engine) (ring : Ring) (length : Nat) (hlen : 0 < length) :
    let waiting := ring.items.toList
    let whole := waiting.length / channels.input
    let frames := length / channels.output
    let (engine, output) :=
      e.process (waiting.take (whole * channels.input)) whole
        (Frame.silence (frames * channels.output)) frames channels
    renderCallback convert channels lock e ring length
      = (engine, { ring with items := (waiting.drop (whole * channels.input)).toArray },
          output.map convert
            ++ List.replicate (length % channels.output) (convert Sample.zero)) := by
  have hadmits : lock.admits = true := by
    cases lock with
    | free => rfl
    | poisoned => rfl
    | held => exact absurd rfl hlock
  have htake : (ring.items.toList.take
      (ring.items.size / channels.input * channels.input)).length / channels.input
        = ring.items.size / channels.input := by
    rw [List.length_take, Array.length_toList, Nat.min_eq_left (Nat.div_mul_le_self ..),
      Nat.mul_div_cancel _ hin]
  have hcall := process_silence e
    (ring.items.toList.take (ring.items.size / channels.input * channels.input))
    (length / channels.output) hin hout
  rw [htake] at hcall
  have hrender := renderCallback_of_admits convert channels hadmits e ring (Nat.ne_of_gt hlen)
  simp only [Nat.max_eq_left hin, Nat.max_eq_left hout, Ring.popFrames_eq, htake] at hrender
  simp only [Array.length_toList, hcall, hrender]

/-- An engine with a clip of two frames on one channel. -/
def twoFrameEngine : Engine :=
  { clip := some
      { samples := #[.one, .negOne]
        frameCount := 2
        channels := 1
        rate := 8000
        frameCount_pos := by decide
        channels_pos := by decide
        size_eq := rfl } }

/-- A buffer of five samples has room for two frames on two channels, and one of three captured
    samples stays in the ring.  The lock is poisoned, which makes no difference. -/
theorem renderCallback_of_five_samples :
    0 < 2 ∧ EngineLock.poisoned ≠ .held ∧ 0 < 5
      ∧ (renderCallback id { input := 2, output := 2 } .poisoned twoFrameEngine
          { capacity := 4, items := #[.one, .half, .one] } 5).2
        = ({ capacity := 4, items := #[.one] }, [.one, .one, .negOne, .negOne, .zero]) := by
  have hcall := renderCallback_eq_process id { input := 2, output := 2 } (by decide) (by decide)
    .poisoned (by decide) twoFrameEngine { capacity := 4, items := #[.one, .half, .one] } 5
    (by decide)
  exact ⟨by decide, by decide, by decide, congrArg Prod.snd hcall⟩

end Loopback
