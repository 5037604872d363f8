import Loopback.Clip
import Loopback.Peak
import Loopback.Recording
import Loopback.Stream

/-! # The loopback engine

    The engine plays a clip to the output of a duplex link while it records and meters the input.
    This module holds its state and the operations of the controlling side: loading a clip, starting
    and stopping.  What happens in an audio callback is in `Loopback.Engine.Process`.

    * What other threads may read at any time is kept apart as the `Monitor`.
    * A start forgets everything about earlier runs: counters, recordings, meters and the cursor.
    * A start that the link refuses leaves the engine as it prepared itself, but not running.
-/

namespace Loopback

/-- The length of each recording unless another is asked for, in seconds. -/
def defaultMaxRecordSeconds : Nat := 300

/-- Choices made for the whole life of an engine. -/
structure Options where
  /-- The length of each recording, in seconds. -/
  maxRecordSeconds : Nat := defaultMaxRecordSeconds
  /-- The decay of the meters. -/
  peakDecay : Sample := Meter.defaultDecay
deriving DecidableEq, Repr, Inhabited

/-- What can be read of a running engine.  The totals are natural numbers: they are taken to stay
    below 2^64, where the counters of a real engine wrap around. -/
structure Monitor where
  /-- Whether the clip starts over at its end. -/
  loopMode : Bool := true
  /-- Whether a start was ever attempted. -/
  started : Bool := false
  /-- Whether the link runs. -/
  running : Bool := false
  /-- Frames taken from the clip since the latest start. -/
  playedFrames : Nat := 0
  /-- Frames heard since the latest start. -/
  recordedFrames : Nat := 0
  /-- The cursor as of the latest callback, load or start. -/
  position : Nat := 0
  /-- Callbacks that found the engine in use. -/
  skippedCallbacks : Nat := 0
  /-- Heard frames for which there was no room on the way to the engine. -/
  droppedInputFrames : Nat := 0
  /-- The levels of the input channels. -/
  peaks : PeakBoard := {}
deriving DecidableEq, Repr, Inhabited

/-- The answer to a query for the level of a channel. -/
inductive PeakReading where
  /-- The channel's level. -/
  | level (s : Sample)
  /-- There was no start yet. -/
  | notStarted
  /-- There are only `live` channels. -/
  | outOfRange (live : Nat)
deriving DecidableEq, Repr, Inhabited

/-- The number that stands for a level before the first start. -/
def peakNotStarted : Float := -1.0

/-- The number that stands for the level of a channel that the input does not have. -/
def peakIndexOutOfRange : Float := -2.0

namespace PeakReading

/-- A reading as one number; where there is no level, it is negative. -/
def number : PeakReading → Float
  | level s => s.value.toFloat
  | notStarted => peakNotStarted
  | outOfRange _ => peakIndexOutOfRange

theorem number_lt_zero {r : PeakReading} (h : ∀ s, r ≠ level s) : r.number < 0 := by
  cases r with
  | level s => exact absurd rfl (h s)
  | notStarted =>
    show peakNotStarted < 0
    decide
  | outOfRange live =>
    show peakIndexOutOfRange < 0
    decide

end PeakReading

namespace Monitor

def peak (m : Monitor) (channel : Nat) : PeakReading :=
  if !m.started then .notStarted
  else
    match m.peaks.get? channel with
    | some s => .level s
    | none => .outOfRange m.peaks.liveChannels

end Monitor

/-- A loopback engine. -/
structure Engine where
  options : Options := {}
  /-- What is played. -/
  clip : Option Clip := none
  /-- Index of the next frame of the clip to be played; the frame count at the clip's end. -/
  cursor : Nat := 0
  /-- What was played since the latest start. -/
  played : Option Recording := none
  /-- What was heard since the latest start. -/
  recorded : Option Recording := none
  /-- One meter for each input channel of the latest start. -/
  meters : List Meter := []
  /-- The right to publish the meters' levels. -/
  ticket : PeakTicket := .empty
  outputFormat : Option StreamFormat := none
  inputFormat : Option StreamFormat := none
  monitor : Monitor := {}

namespace Engine

def new (options : Options) : Engine := { options }

def setLoopMode (e : Engine) (on : Bool) : Engine :=
  { e with monitor := { e.monitor with loopMode := on } }

/-- Makes audio the clip and rewinds.  Audio that is refused changes nothing. -/
def load (e : Engine) (a : Audio) : Except LoadError Engine :=
  (Clip.ofAudio a).map fun clip =>
    { e with clip := some clip, cursor := 0, monitor := { e.monitor with position := 0 } }

/-- The number of frames that a recording of this format may hold. -/
def recordingCapacity (e : Engine) (format : StreamFormat) : Nat :=
  e.options.maxRecordSeconds * format.rate

/-- Forgets earlier runs and prepares for streams of the given formats. -/
def prepare (e : Engine) (output input : StreamFormat) : Engine :=
  let (peaks, ticket) := e.monitor.peaks.reset input.channels
  { e with
    cursor := 0
    played := some (.new output.channels (e.recordingCapacity output))
    recorded := some (.new input.channels (e.recordingCapacity input))
    meters := List.replicate input.channels (.fresh e.options.peakDecay)
    ticket
    outputFormat := some output
    inputFormat := some input
    monitor :=
      { e.monitor with
        started := true
        playedFrames := 0
        recordedFrames := 0
        position := 0
        skippedCallbacks := 0
        droppedInputFrames := 0
        peaks } }

def setRunning (e : Engine) (running : Bool) : Engine :=
  { e with monitor := { e.monitor with running } }

variable {σ : Type} [Link σ]

/-- Prepares for the link's formats, then starts the link. -/
def start (e : Engine) (link : σ) : Engine × σ × Except StreamError Unit :=
  let e := e.prepare (Link.outputFormat link) (Link.inputFormat link)
  match Link.start link with
  | (link, .ok ()) => (e.setRunning true, link, .ok ())
  | (link, .error err) => (e, link, .error err)

/-- Stops the link.  The engine counts as stopped even if the link fails to stop. -/
def stop (e : Engine) (link : σ) : Engine × σ × Except StreamError Unit :=
  let (link, result) := Link.stop link
  (e.setRunning false, link, result)

def noteSkippedCallback (e : Engine) : Engine :=
  { e with monitor := { e.monitor with skippedCallbacks := e.monitor.skippedCallbacks + 1 } }

def noteDroppedInput (e : Engine) (frames : Nat) : Engine :=
  { e with
    monitor := { e.monitor with droppedInputFrames := e.monitor.droppedInputFrames + frames } }

end Engine

end Loopback
