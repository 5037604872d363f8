import Loopback.DevicePair
import Loopback.Log.Trace
import Loopback.Offline
import Loopback.Status
import Loopback.Wav.Read
import Loopback.Wav.Write

/-! # Sessions

    A session owns an engine and its link through a whole run: load a clip, start, let callbacks
    happen, stop, export the recordings.

    * A start needs a clip and a session that is not running.  Otherwise it is refused without
      asking the link.
    * A stop asks the link once, and the session is stopped whatever the link answers.
    * Exports are refused while the session runs, and change nothing in the session.
    * Every operation reports what is to be logged and traced, in order.
    * Time is the time of day in nanoseconds, given by the caller.
-/

namespace Loopback

/-- What is loaded for playback. -/
structure ClipInfo where
  /-- The file it came from, if it came from one. -/
  source : Option String
  frameCount : Nat
  channels : Nat
  rate : Nat
deriving DecidableEq, Repr, Inhabited

inductive SessionError where
  | devices (cause : StreamError)
  | unreadable (path : String) (cause : WavError)
  | unusableClip (cause : LoadError)
  | noClip
  | alreadyRunning
  | start (cause : StreamError)
  | stop (cause : StreamError)
  /-- There is no export while the session runs. -/
  | stillRunning (kind : RecordingKind)
  /-- There was no start yet. -/
  | nothingYet (kind : RecordingKind)
  | exportDir (dir : String) (cause : FileError)
  | exportWav (kind : RecordingKind) (cause : WavError)
deriving DecidableEq, Repr, Inhabited

namespace SessionError

/-- The error and its causes, outermost first. -/
def chain : SessionError → List String
  | devices cause => ["failed to open audio devices", cause.message]
  | unreadable path cause => s!"failed to read '{path}'" :: cause.chain
  | unusableClip cause => ["failed to load audio data", cause.message]
  | noClip => ["no audio loaded; load a WAV file before starting"]
  | alreadyRunning => ["loopback is already running"]
  | start cause => ["failed to start duplex stream", cause.message]
  | stop cause => ["failed to stop duplex stream", cause.message]
  | stillRunning kind => [s!"stop the loopback before exporting the {kind.label} audio"]
  | nothingYet kind => [s!"nothing {kind.label} yet; start the loopback first"]
  | exportDir dir cause => [s!"failed to create export dir '{dir}'", cause.message]
  | exportWav kind cause => s!"failed to export {kind.label} audio" :: cause.chain

def message (e : SessionError) : String := e.chain.headD ""

/-- The error and its causes, in one line. -/
def fullMessage (e : SessionError) : String := ": ".intercalate e.chain

end SessionError

/-- How an operation fails. -/
inductive Failure (ε : Type) where
  /-- An error that is returned to the caller. -/
  | error (e : ε)
  /-- A crash in the middle of the operation. -/
  | crash
deriving DecidableEq, Repr

structure ExportedWav where
  path : String
  bytes : Nat
deriving DecidableEq, Repr, Inhabited

structure Session (σ : Type) where
  engine : Engine
  link : σ
  /-- Runs the callbacks of a simulated link. -/
  driver : Option OfflineDriver := none
  clip : Option ClipInfo := none
  /-- Whether to log how long things take. -/
  logTimings : Bool := false
  /-- When the current run began. -/
  startedAt : Option Nat := none
  /-- Whether an operation crashed while it held the engine's lock. -/
  lockPoisoned : Bool := false

/-- The result of an operation. -/
structure Outcome (σ α : Type) where
  session : Session σ
  /-- What is to be logged and traced, in order. -/
  entries : List Entry
  result : Except (Failure SessionError) α

namespace Session

/-! ### Opening -/

def offline (options : Options) (loopMode logTimings : Bool) (link : OfflineLink) :
    Session OfflineLink :=
  { engine := (Engine.new options).setLoopMode loopMode
    link
    driver := some { link }
    logTimings }

/-- A session over a pair of devices; also gives what is noted on the way. -/
def overDevices (options : Options) (loopMode logTimings : Bool) (host : Host)
    (wantedInput wantedOutput : Option String) :
    List Notice × Except SessionError (Session DevicePair) :=
  match DevicePair.connect host wantedInput wantedOutput with
  | (notices, .error err) => (notices, .error (.devices err))
  | (notices, .ok link) =>
    (notices ++ [.devicesReady (link.deviceName .input) (link.deviceName .output)],
      .ok
        { engine := (Engine.new options).setLoopMode loopMode
          link
          logTimings })

variable {σ : Type}

/-! ### Looking -/

def isRunning (s : Session σ) : Bool := s.engine.monitor.running

def isOffline (s : Session σ) : Bool := s.driver.isSome

def loopMode (s : Session σ) : Bool := s.engine.monitor.loopMode

def status (s : Session σ) : Status :=
  let m := s.engine.monitor
  { running := m.running
    started := m.started
    loopMode := m.loopMode
    playedFrames := m.playedFrames
    recordedFrames := m.recordedFrames
    position := m.position
    clipFrames := s.clip.map (·.frameCount)
    skippedCallbacks := m.skippedCallbacks
    droppedInputFrames := m.droppedInputFrames
    peaks := if m.started then m.peaks.levels else [] }

/-! ### Reporting -/

/-- What is reported when the engine's lock is taken. -/
def lockEntries (s : Session σ) (context : String) : List Entry :=
  if s.lockPoisoned then [.notice (.lockRecovered context)] else []

/-- A notice about the time something took, if such notices are wanted. -/
def timing (s : Session σ) (n : Notice) : List Entry :=
  if s.logTimings then [.notice n] else []

/-- An operation that ends without changing anything. -/
def unchanged {α : Type} (s : Session σ) (entries : List Entry)
    (result : Except SessionError α) : Outcome σ α :=
  { session := s, entries, result := result.mapError .error }

/-! ### Operations -/

def setLoopMode (s : Session σ) (on : Bool) : Session σ :=
  { s with engine := s.engine.setLoopMode on }

section

variable [Link σ]

/-- Makes audio the clip, and notes its source. -/
def install (s : Session σ) (a : Audio) (source : Option String) : Outcome σ ClipInfo :=
  let lock := s.lockEntries "LoopbackSession::load"
  match s.engine.load a with
  | .error err => s.unchanged lock (.error (.unusableClip err))
  | .ok engine =>
    let info : ClipInfo :=
      { source, frameCount := a.frameCount, channels := a.channels, rate := a.rate }
    let outputRate := (Link.outputFormat s.link).rate
    let mismatch :=
      if a.rate = outputRate then [] else [Entry.notice (.rateMismatch a.rate outputRate)]
    { session := { s with engine, clip := some info }
      entries :=
        lock ++ [.notice (.clipLoaded a.frameCount a.channels a.rate)] ++ mismatch
          ++ [.trace (.clipLoaded a.frameCount a.channels a.rate)]
      result := .ok info }

def loadClip (s : Session σ) (a : Audio) : Outcome σ ClipInfo := s.install a none

def loadFile (s : Session σ) (files : FileTree) (path : String) : Outcome σ ClipInfo :=
  match Wav.read files path with
  | .error err => s.unchanged [] (.error (.unreadable path err))
  | .ok a =>
    let outcome := s.install a (some path)
    { outcome with
      entries := s.timing (.decodeTiming a.frameCount a.channels 0) ++ outcome.entries }

def start (s : Session σ) (now : Nat) : Outcome σ Unit :=
  -- a refusal leaves the current run and the link alone
  if s.clip.isNone then s.unchanged [] (.error .noClip)
  else if s.isRunning then s.unchanged [] (.error .alreadyRunning)
  else
    let output := Link.outputFormat s.link
    let input := Link.inputFormat s.link
    let begun :=
      s.lockEntries "LoopbackSession::start" ++ [.notice (.engineStarting output input)]
    match s.engine.start s.link with
    -- the engine has already forgotten the run before
    | (engine, link, .error err) =>
      { s with engine, link }.unchanged begun (.error (.start err))
    | (engine, link, .ok ()) =>
      { session :=
          { s with engine, link, driver := s.driver.map (·.reset), startedAt := some now }
        entries :=
          begun ++ s.timing (.startTiming 0) ++ [.trace (.started output input s.loopMode)]
        result := .ok () }

/-- Stops the session, if it runs. -/
def stop (s : Session σ) (now : Nat) : Outcome σ Unit :=
  if !s.isRunning then s.unchanged [] (.ok ())
  else
    let (engine, link, result) := s.engine.stop s.link
    let m := engine.monitor
    let elapsed := (s.startedAt.map (now - ·)).getD 0
    { session := { s with engine, link, startedAt := none }
      entries :=
        s.lockEntries "LoopbackSession::stop"
          ++ [.notice (.engineStopped m.playedFrames m.recordedFrames)]
          ++ s.timing
              (.runTiming elapsed m.playedFrames m.recordedFrames m.skippedCallbacks
                m.droppedInputFrames)
          ++ [.trace (.stopped m.playedFrames m.recordedFrames (elapsed / 1000000))]
      result := (result.mapError .stop).mapError .error }

/-- Drops the session: if it runs, it is stopped. -/
def shutDown (s : Session σ) (now : Nat) : Session σ × List Entry :=
  let outcome := s.stop now
  let complaint := match outcome.result with
    | .error (.error err) => [Entry.notice (.sessionDropFailed err.fullMessage)]
    | _ => []
  (outcome.session, outcome.entries ++ complaint)

end

/-- Lets time pass on a simulated link, and gives the number of callbacks. -/
def pump (s : Session σ) (elapsed : Nat) : Outcome σ Nat :=
  match s.driver with
  | none => s.unchanged [] (.ok 0)
  | some driver =>
    if !s.isRunning then s.unchanged [] (.ok 0)
    else
      let entries := s.lockEntries "LoopbackSession::pump_offline"
      match driver.run s.engine elapsed with
      | (driver, engine, some callbacks) =>
        { session := { s with engine, driver := some driver }, entries, result := .ok callbacks }
      -- the operation crashes while it holds the lock
      | (driver, engine, none) =>
        { session := { s with engine, driver := some driver, lockPoisoned := true }
          entries
          result := .error .crash }

def peak (s : Session σ) (channel : Nat) : PeakReading := s.engine.monitor.peak channel

/-! ### Exports -/

/-- The recording of a kind, with its format. -/
def recording? (s : Session σ) (kind : RecordingKind) : Option (Recording × StreamFormat) :=
  match kind with
  | .played => s.engine.played.bind fun r => s.engine.outputFormat.map (r, ·)
  | .recorded => s.engine.recorded.bind fun r => s.engine.inputFormat.map (r, ·)

/-- The time in a file name: seconds and milliseconds. -/
def stamp (now : Nat) : String :=
  s!"{now / 1000000000}_" ++ Decimal.padLeft 3 (toString (now / 1000000 % 1000))

/-- The path of the file that a recording is exported to. -/
def exportPath (dir : String) (kind : RecordingKind) (now : Nat) : String :=
  FileTree.join dir (s!"hfp_{kind.label}_" ++ stamp now ++ ".wav")

/-- Writes a recording to a directory, which is created if need be.  Gives the files afterwards. -/
def exportTo (s : Session σ) (files : FileTree) (kind : RecordingKind) (dir : String) (now : Nat) :
    FileTree × Outcome σ ExportedWav :=
  if s.isRunning then (files, s.unchanged [] (.error (.stillRunning kind)))
  else
    let lock := s.lockEntries "LoopbackSession::export"
    match s.recording? kind with
    | none => (files, s.unchanged lock (.error (.nothingYet kind)))
    | some (r, format) =>
      match files.createDirs dir with
      | (files, .error err) => (files, s.unchanged lock (.error (.exportDir dir err)))
      | (files, .ok ()) =>
        let path := exportPath dir kind now
        match Wav.write files path r format.rate with
        | .failed err => (files, s.unchanged lock (.error (.exportWav kind err)))
        -- the file has been begun, and the operation crashes while it holds the lock
        | .noHeader files =>
          (files,
            { session := { s with lockPoisoned := true }
              entries := lock
              result := .error .crash })
        | .file files bytes =>
          let overflow :=
            if 0 < r.dropped then
              [Entry.notice (.recordingOverflowed kind r.written r.dropped)]
            else []
          (files,
            { session := s
              entries := lock ++ overflow ++ [.trace (.exported kind r.written bytes path)]
              result := .ok { path, bytes } })

end Session

namespace PeakReading

/-- What is noted about a query for a level that does not exist. -/
def notices (r : PeakReading) (channel : Nat) : List Notice :=
  match r with
  | level _ => []
  | notStarted => [.peakBeforeStart]
  | outOfRange live => [.peakOutOfRange channel live]

end PeakReading

end Loopback
