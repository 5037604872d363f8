import Loopback.Engine

/-! # Audio callbacks

    One callback fills an output buffer from the clip and takes in an input buffer.  Frame counts
    are cut to what the buffers hold; a direction without channels is left alone.

    * `Engine.render` plays: frames of the clip first, then silence, then what no frame covers as it
      was.
    * `Engine.capture` listens: whole frames are recorded, metered and counted.
    * `Engine.process` does both, playing first.
-/

namespace Loopback

structure ChannelCounts where
  input : Nat
  output : Nat
deriving DecidableEq, Repr, Inhabited

namespace Engine

/-- Plays into an output buffer of interleaved samples; gives the buffer afterwards. -/
def render (e : Engine) (output : List Sample) (count channels : Nat) : Engine × List Sample :=
  if channels = 0 then (e, output)
  else
    let frames := min count (Frame.available channels output)
    let untouched := output.drop (frames * channels)
    match e.clip with
    -- counters are for frames of a clip only
    | none => (e, Frame.silence (frames * channels) ++ untouched)
    | some clip =>
      let (produced, cursor) := clip.play e.monitor.loopMode channels frames e.cursor
      let rest := Frame.silence ((frames - produced.length) * channels)
      ({ e with
          cursor
          played := e.played.map (·.writeFrames produced)
          monitor :=
            { e.monitor with
              playedFrames := e.monitor.playedFrames + produced.length
              position := cursor } },
        produced.flatten ++ rest ++ untouched)

/-- Records frames: as one block if the recording has the callback's width, else one by one, each
    cut or padded. -/
def record (r : Recording) (input : List Sample) (frames channels : Nat) : Recording :=
  if r.channels = channels then (r.write input frames).1
  else r.writeFrames (Frame.cut channels frames input)

/-- Records and meters an input buffer of interleaved samples. -/
def capture (e : Engine) (input : List Sample) (count channels : Nat) : Engine :=
  if channels = 0 then e
  else
    let frames := min count (Frame.available channels input)
    let meters := Meter.feedFrames e.meters (Frame.cut channels frames input)
    let peaks := e.monitor.peaks
    { e with
      recorded := e.recorded.map (record · input frames channels)
      meters
      monitor :=
        { e.monitor with
          recordedFrames := e.monitor.recordedFrames + frames
          peaks := if frames = 0 then peaks else peaks.publish e.ticket meters } }

/-- One callback in both directions. -/
def process (e : Engine) (input : List Sample) (inputCount : Nat)
    (output : List Sample) (outputCount : Nat) (channels : ChannelCounts) :
    Engine × List Sample :=
  let (e, output) := e.render output outputCount channels.output
  (e.capture input inputCount channels.input, output)

end Engine

namespace OfflineLink

/-- Runs one callback by hand: takes interleaved input and gives `count` frames of output. -/
def pump (l : OfflineLink) (e : Engine) (input : List Sample) (count : Nat) :
    Engine × List Sample :=
  let inputCount := input.length / max l.input.channels 1
  e.process input inputCount (Frame.silence (count * l.output.channels)) count
    { input := l.input.channels, output := l.output.channels }

end OfflineLink

end Loopback
