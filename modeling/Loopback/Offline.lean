import Loopback.Engine.Process

/-! # The offline driver

    Without devices the callbacks are run by the clock: one for each whole period of ten
    milliseconds.  The simulated microphone hears the output of the previous period at half its
    level, on all channels the output's first channel, and resampled by taking the frame at the same
    share of the period.
-/

namespace Loopback

/-- The output format of the simulated link unless another is asked for. -/
def offlineOutputFormat : StreamFormat := { rate := 48000, channels := 2 }

/-- The input format of the simulated link unless another is asked for. -/
def offlineInputFormat : StreamFormat := { rate := 16000, channels := 1 }

def offlineCallbackMillis : Nat := 10

/-- The length of a callback period, in nanoseconds. -/
def offlinePeriod : Nat := offlineCallbackMillis * 1000000

theorem offlinePeriod_pos : 0 < offlinePeriod := by decide

/-- The number of whole frames in a period. -/
def framesPerPeriod (rate : Nat) : Nat := rate * offlineCallbackMillis / 1000

/-- Runs the callbacks of a simulated link. -/
structure OfflineDriver where
  link : OfflineLink
  /-- Time that does not fill a period yet, in nanoseconds. -/
  pending : Nat := 0
  /-- The output of the latest period; empty before the first. -/
  lastOutput : Array Sample := #[]
deriving Repr, Inhabited

namespace OfflineDriver

def reset (d : OfflineDriver) : OfflineDriver := { d with pending := 0, lastOutput := #[] }

/-- The sample at frame `i` of the input, taken from the latest output. -/
def echoSample (d : OfflineDriver) (i : Nat) : Sample :=
  let inFrames := framesPerPeriod d.link.input.rate
  let outFrames := framesPerPeriod d.link.output.rate
  let source := i * outFrames / inFrames
  d.lastOutput[source * d.link.output.channels]?.getD Sample.zero * Sample.half

/-- The input of the next period.  There is none if there are frames to hear but no channel to hear
    them on. -/
def echo (d : OfflineDriver) : Option (List Sample) :=
  let channels := d.link.input.channels
  let inFrames := framesPerPeriod d.link.input.rate
  if d.lastOutput.isEmpty || inFrames = 0 then some (Frame.silence (inFrames * channels))
  else if channels = 0 then none
  else some ((List.range inFrames).flatMap fun i => List.replicate channels (d.echoSample i))

/-- Runs one callback; false if there is no input for it. -/
def runPeriod (d : OfflineDriver) (e : Engine) : OfflineDriver × Engine × Bool :=
  -- the period is spent even if the callback finds no input
  let d := { d with pending := d.pending - offlinePeriod }
  match d.echo with
  | none => (d, e, false)
  | some input =>
    let (e, output) := d.link.pump e input (framesPerPeriod d.link.output.rate)
    ({ d with lastOutput := output.toArray }, e, true)

theorem pending_runPeriod (d : OfflineDriver) (e : Engine) :
    (d.runPeriod e).1.pending = d.pending - offlinePeriod := by
  unfold runPeriod
  dsimp only
  split <;> rfl

/-- Runs callbacks while a whole period of time is left, and counts them on from `callbacks`.  A
    callback without input is the last one, and there is no count then. -/
def runDue (d : OfflineDriver) (e : Engine) (callbacks : Nat) :
    OfflineDriver × Engine × Option Nat :=
  if offlinePeriod ≤ d.pending then
    match h : d.runPeriod e with
    | (d', e', true) => runDue d' e' (callbacks + 1)
    | (d', e', false) => (d', e', none)
  else (d, e, some callbacks)
termination_by d.pending
decreasing_by
  have hleft : d'.pending = d.pending - offlinePeriod := by
    rw [← d.pending_runPeriod e, h]
  have hpos := offlinePeriod_pos
  omega

/-- Lets time pass and runs the callbacks that are due. -/
def run (d : OfflineDriver) (e : Engine) (elapsed : Nat) : OfflineDriver × Engine × Option Nat :=
  runDue { d with pending := d.pending + elapsed } e 0

end OfflineDriver

end Loopback
