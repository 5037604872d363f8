import Loopback.Engine.Process
import Loopback.Ring
import Loopback.Sample.Pcm

/-! # Device callbacks

    The input callback moves captured frames into the ring.  The output callback takes them out
    again and drives the engine with them, so that one call of the engine sees both directions.

    * `captureCallback` converts samples as they come and counts frames that find no room.
    * `renderCallback` never waits: while the engine is in use it plays silence and leaves the ring
      as it is.  Otherwise the buffer is filled in chunks of at most 4096 frames, and the first
      chunk brings all captured frames with it.
    * `captureBuffer` and `renderBuffer` do the same for a buffer in a device's own sample format.
-/

namespace Loopback

/-- The state of the lock that guards an engine. -/
inductive EngineLock where
  | free
  /-- Another thread works on the engine. -/
  | held
  /-- A thread failed while it worked on the engine; the engine may be used nevertheless. -/
  | poisoned
deriving DecidableEq, Repr, Inhabited

namespace EngineLock

/-- Whether a callback gets the lock. -/
def admits : EngineLock → Bool
  | held => false
  | free | poisoned => true

end EngineLock

def maxCallbackFrames : Nat := 4096

/-- The input callback: whole frames of `channels` samples are converted and put into the ring. -/
def captureCallback {α : Type} (convert : α → Sample) (channels : Nat)
    (e : Engine) (ring : Ring) (data : List α) : Engine × Ring :=
  let width := max channels 1
  let samples := data.map convert
  let frames := Frame.cut width (Frame.available width samples) samples
  let (ring, dropped) := ring.pushFrames frames
  (e.noteDroppedInput dropped, ring)

/-- Fills `length` samples of a buffer chunk by chunk.  Samples after the last whole frame of a
    chunk are set to the conversion of silence. -/
def renderChunks {α : Type} (convert : Sample → α) (channels : ChannelCounts)
    (e : Engine) (captured : List Sample) (length : Nat) : Engine × List α :=
  if length = 0 then (e, [])
  else
    let chunk := min length (maxCallbackFrames * max channels.output 1)
    let frames := chunk / channels.output
    let (e, rendered) :=
      e.process captured (captured.length / channels.input)
        (Frame.silence (frames * channels.output)) frames channels
    let filled :=
      rendered.map convert
        ++ List.replicate (chunk - frames * channels.output) (convert Sample.zero)
    -- what was captured has been heard by now
    let (e, rest) := renderChunks convert channels e [] (length - chunk)
    (e, filled ++ rest)
termination_by length
decreasing_by
  have : 1 ≤ max channels.output 1 := Nat.le_max_right ..
  have : 4096 ≤ maxCallbackFrames * max channels.output 1 := by
    unfold maxCallbackFrames
    omega
  omega

/-- The output callback: gives the samples that the device plays, for a buffer of the given length.
    -/
def renderCallback {α : Type} (convert : Sample → α) (channels : ChannelCounts) (lock : EngineLock)
    (e : Engine) (ring : Ring) (length : Nat) : Engine × Ring × List α :=
  let channels : ChannelCounts :=
    { input := max channels.input 1, output := max channels.output 1 }
  if lock.admits then
    let (ring, captured) := ring.popFrames channels.input
    let (e, buffer) := renderChunks convert channels e captured length
    (e, ring, buffer)
  -- captured frames wait in the ring for a callback that can record them
  else
    (e.noteSkippedCallback, ring, List.replicate length (convert Sample.zero))

/-! ### Buffers in a device's own format -/

/-- A buffer of samples in one of the formats that can be streamed. -/
inductive DeviceBuffer where
  | f32 (samples : List Sample)
  | i16 (samples : List Int16)
  | u16 (samples : List UInt16)
deriving DecidableEq, Repr, Inhabited

def captureBuffer (channels : Nat) (e : Engine) (ring : Ring) : DeviceBuffer → Engine × Ring
  | .f32 samples => captureCallback id channels e ring samples
  | .i16 samples => captureCallback Sample.ofInt16 channels e ring samples
  | .u16 samples => captureCallback Sample.ofUInt16 channels e ring samples

/-- The output callback of a device.  A format that cannot be streamed is treated as floats. -/
def renderBuffer (format : SampleFormat) (channels : ChannelCounts) (lock : EngineLock)
    (e : Engine) (ring : Ring) (length : Nat) : Engine × Ring × DeviceBuffer :=
  match format with
  | .i16 =>
    let (e, ring, samples) := renderCallback Sample.toInt16 channels lock e ring length
    (e, ring, .i16 samples)
  | .u16 =>
    let (e, ring, samples) := renderCallback Sample.toUInt16 channels lock e ring length
    (e, ring, .u16 samples)
  | _ =>
    let (e, ring, samples) := renderCallback id channels lock e ring length
    (e, ring, .f32 samples)

end Loopback
