import Loopback.Callback
import Loopback.Host
import Loopback.Log.Notice

/-! # A pair of devices as a duplex link

    Input and output are separate streams that are started and stopped together.

    * `DevicePair.connect` picks the devices and reads their formats; no stream is built yet.
    * A start builds input and output, then starts input and output.  The first failure undoes what
      was done before, so either both streams run or there is none.
    * A stop pauses both streams, the output first, and closes both whatever happened; the output's
      failure is the one that is reported.
    * Each start that succeeds begins with an empty ring.
-/

namespace Loopback

/-- A device opened in one direction, with its format at that time. -/
structure OpenDevice where
  index : Nat
  rate : Nat
  channels : Nat
  format : SampleFormat
deriving DecidableEq, Repr, Inhabited

namespace OpenDevice

/-- The format the engine sees: there is at least one channel. -/
def streamFormat (d : OpenDevice) : StreamFormat :=
  { rate := d.rate, channels := max d.channels 1 }

def connect (h : Host) (direction : Direction) (wanted : Option String) :
    Except StreamError OpenDevice := do
  let index ← h.find direction wanted
  match (h.device index).side? direction with
  | none => .error (.config (FaultStage.config.message "StreamTypeNotSupported"))
  | some side =>
    match side.configError with
    | some cause => .error (.config (FaultStage.config.message cause))
    | none => .ok { index, rate := side.rate, channels := side.channels, format := side.format }

def notice (d : OpenDevice) (h : Host) (direction : Direction) : Notice :=
  .deviceOpened direction ((h.device d.index).name?.getD "unknown") d.format d.rate d.channels

end OpenDevice

inductive StreamEvent where
  | build (direction : Direction) (format : SampleFormat) (channels rate : Nat) (ok : Bool)
  | play (direction : Direction) (ok : Bool)
  | pause (direction : Direction) (ok : Bool)
  | close (direction : Direction)
deriving DecidableEq, Repr, Inhabited

namespace StreamEvent

/-- What follows an event that failed. -/
def outcomeText (ok : Bool) : String := if ok then "" else ": failed"

def text : StreamEvent → String
  | build direction format channels rate ok =>
    s!"build {direction.label} {format.name} {channels}ch {rate}Hz" ++ outcomeText ok
  | play direction ok => s!"play {direction.label}" ++ outcomeText ok
  | pause direction ok => s!"pause {direction.label}" ++ outcomeText ok
  | close direction => s!"close {direction.label}"

end StreamEvent

/-- Two devices, and the streams between them if they run. -/
structure DevicePair where
  host : Host
  input : OpenDevice
  output : OpenDevice
  /-- The ring between the two streams; there are streams exactly if there is a ring. -/
  ring : Option Ring := none
  /-- What has happened to streams, latest first. -/
  events : List StreamEvent := []
deriving Repr, Inhabited

namespace DevicePair

/-- Opens both devices, the input first; also returns what is noted on the way. -/
def connect (h : Host) (wantedInput wantedOutput : Option String) :
    List Notice × Except StreamError DevicePair :=
  match OpenDevice.connect h .input wantedInput with
  | .error err => ([], .error err)
  | .ok input =>
    match OpenDevice.connect h .output wantedOutput with
    | .error err => ([input.notice h .input], .error err)
    | .ok output =>
      ([input.notice h .input, output.notice h .output], .ok { host := h, input, output })

def device (p : DevicePair) : Direction → OpenDevice
  | .input => p.input
  | .output => p.output

def deviceName (p : DevicePair) (direction : Direction) : String :=
  (p.host.device (p.device direction).index).name?.getD "Unknown Device"

/-- The side of an opened device as it is now. -/
def side (p : DevicePair) (direction : Direction) : Option DeviceSide :=
  (p.host.device (p.device direction).index).side? direction

def channelCounts (p : DevicePair) : ChannelCounts :=
  { input := p.input.streamFormat.channels, output := p.output.streamFormat.channels }

def note (p : DevicePair) (event : StreamEvent) : DevicePair :=
  { p with events := event :: p.events }

/-- The ring of a new pair of streams: half a second of input, and 1024 frames at least. -/
def newRing (p : DevicePair) : Ring :=
  let format := p.input.streamFormat
  .new (max (format.rate * 500 / 1000) 1024 * format.channels)

/-! ### Steps of starting and stopping -/

/-- Builds a stream, unless the device's samples have a format that cannot be streamed. -/
def build (p : DevicePair) (direction : Direction) : DevicePair × Except StreamError Unit :=
  let device := p.device direction
  if !device.format.streamable then (p, .error (.unsupportedFormat device.format.name))
  else
    let event := StreamEvent.build direction device.format device.channels device.rate
    match (p.side direction).bind (·.buildError) with
    | none => (p.note (event true), .ok ())
    | some cause =>
      (p.note (event false),
        .error (.build s!"{direction.label}: {FaultStage.build.message cause}"))

def play (p : DevicePair) (direction : Direction) : DevicePair × Except StreamError Unit :=
  match (p.side direction).bind (·.playError) with
  | none => (p.note (.play direction true), .ok ())
  | some cause =>
    (p.note (.play direction false),
      .error (.play s!"{direction.label}: {FaultStage.transport.message cause}"))

def pause (p : DevicePair) (direction : Direction) : DevicePair × Except StreamError Unit :=
  match (p.side direction).bind (·.pauseError) with
  | none => (p.note (.pause direction true), .ok ())
  | some cause =>
    (p.note (.pause direction false),
      .error (.pause s!"{direction.label}: {FaultStage.transport.message cause}"))

def close (p : DevicePair) (direction : Direction) : DevicePair := p.note (.close direction)

/-- Starts both streams, unless they run already. -/
def start (p : DevicePair) : DevicePair × Except StreamError Unit :=
  if p.ring.isSome then (p, .ok ())
  else
    match p.build .input with
    | (p, .error err) => (p, .error err)
    | (p, .ok ()) =>
    match p.build .output with
    -- the input stream stands already
    | (p, .error err) => (p.close .input, .error err)
    | (p, .ok ()) =>
    match p.play .input with
    | (p, .error err) => ((p.close .output).close .input, .error err)
    | (p, .ok ()) =>
    match p.play .output with
    | (p, .error err) => ((p.close .output).close .input, .error err)
    | (p, .ok ()) => ({ p with ring := some p.newRing }, .ok ())

/-- Stops both streams, if they run. -/
def stop (p : DevicePair) : DevicePair × Except StreamError Unit :=
  if p.ring.isNone then (p, .ok ())
  else
    let (p, outputResult) := p.pause .output
    let (p, inputResult) := p.pause .input
    let p := (p.close .output).close .input
    ({ p with ring := none },
      match outputResult with
      | .error err => .error err
      | .ok () => inputResult)

/-- Gives up the pair; streams that still run are closed, the input first. -/
def release (p : DevicePair) : DevicePair :=
  if p.ring.isNone then p else { (p.close .input).close .output with ring := none }

/-- Takes the events noted so far, oldest first. -/
def takeEvents (p : DevicePair) : DevicePair × List StreamEvent :=
  ({ p with events := [] }, p.events.reverse)

/-! ### Callbacks -/

/-- The input callback, if the input stream runs. -/
def capture (p : DevicePair) (e : Engine) (data : DeviceBuffer) : Option (DevicePair × Engine) :=
  p.ring.map fun ring =>
    let (e, ring) := captureBuffer p.channelCounts.input e ring data
    ({ p with ring := some ring }, e)

/-- The output callback, if the output stream runs. -/
def render (p : DevicePair) (e : Engine) (lock : EngineLock) (length : Nat) :
    Option (DevicePair × Engine × DeviceBuffer) :=
  p.ring.map fun ring =>
    let (e, ring, buffer) := renderBuffer p.output.format p.channelCounts lock e ring length
    ({ p with ring := some ring }, e, buffer)

/-- What is noted when a running stream fails. -/
def failure? (p : DevicePair) (direction : Direction) (cause : String) : Option Notice :=
  p.ring.map fun _ => .streamFailed direction (FaultStage.running.message cause)

end DevicePair

instance : Link DevicePair where
  outputFormat p := p.output.streamFormat
  inputFormat p := p.input.streamFormat
  start := DevicePair.start
  stop := DevicePair.stop

end Loopback
