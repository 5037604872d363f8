import Loopback.Config.Arguments
import Loopback.Config.Validate
import Loopback.Log.Writer
import Loopback.Session

/-! # The program

    A run of the program reads its command line, then lists devices or runs one session: load the
    clip, start, report the status at every interval, stop, report once more, export both
    recordings.

    * A run depends on its `Surroundings` only, and its result is an `Execution`.
    * Time is not waited for: callbacks of a simulated link run as if it had passed.
    * The first failure ends the run.  What was printed and logged before it stays, and the session
      is stopped.
-/

namespace Loopback

/-- What a run of the program depends on. -/
structure Surroundings where
  host : Host := {}
  files : FileTree
  /-- The values of environment variables. -/
  env : String → Option String
  /-- The directory for temporary files. -/
  temporary : String
  /-- The time of day, in nanoseconds. -/
  now : Nat

/-- How a run of the program ends. -/
inductive Ending where
  /-- The program returns a status code; zero is success. -/
  | exit (code : Nat)
  /-- An operation crashes. -/
  | crash
deriving DecidableEq, Repr, Inhabited

/-- The result of a run. -/
structure Execution where
  ending : Ending
  stdout : String := ""
  stderr : String := ""
  files : FileTree
  /-- The trace events, in order. -/
  traces : List TraceEvent := []

inductive ProgramError where
  | config (cause : ConfigError)
  | session (cause : SessionError)
  /-- There is nothing to play. -/
  | noInputFile
deriving DecidableEq, Repr, Inhabited

namespace ProgramError

/-- The error and its causes, outermost first. -/
def chain : ProgramError → List String
  | config cause => cause.chain
  | session cause => cause.chain
  | noInputFile => ["--input-file is required"]

/-- The error and its causes, in one line. -/
def fullMessage (e : ProgramError) : String := ": ".intercalate e.chain

/-- A cause after its mark; further lines are indented by the width of the mark. -/
def causeLines (mark cause : String) : String :=
  let indent := String.ofList (List.replicate mark.length ' ')
  mark ++ ("\n" ++ indent).intercalate (cause.splitOn "\n") ++ "\n"

/-- What is printed about an error.  The causes are numbered if there are several. -/
def report (e : ProgramError) : String :=
  match e.chain with
  | [] => ""
  | [message] => s!"Error: {message}\n"
  | [message, cause] => s!"Error: {message}\n\nCaused by:\n" ++ causeLines "    " cause
  | message :: causes =>
    s!"Error: {message}\n\nCaused by:\n"
      ++ String.join (causes.mapIdx fun i cause => causeLines s!"    {i}: " cause)

end ProgramError

/-! ### Texts -/

def programName : String := "hfp-loopback"

def versionText : String := s!"{programName} {programVersion}\n"

def helpText : String :=
  let option (flag meaning : String) : String := s!"      {flag}\n          {meaning}\n"
  "HFP loopback: play a WAV clip out while recording the microphone\n\n"
    ++ s!"Usage: {programName} [OPTIONS]\n\nOptions:\n"
    ++ option "--input-file <WAV>" "WAV file to play out of the output device"
    ++ option "--input-device <INPUT_DEVICE>" "Preferred audio input (microphone) device name"
    ++ option "--output-device <OUTPUT_DEVICE>" "Preferred audio output device name"
    ++ option "--list-devices" "Print detected audio devices and exit"
    ++ option "--no-loop" "Play the clip once, then output silence"
    ++ option "--duration-secs <DURATION_SECS>"
        s!"How long to run the loopback (seconds) [default: {defaultDurationSecs}]"
    ++ option "--max-record-seconds <MAX_RECORD_SECONDS>"
        s!"Capacity of each recording (seconds) [default: {defaultMaxRecordSeconds}]"
    ++ option "--export-dir <EXPORT_DIR>"
        s!"Directory that receives the played/recorded WAV files [default: {defaultExportDir}]"
    ++ option "--no-export" "Skip WAV export after the run"
    ++ option "--status-interval-ms <STATUS_INTERVAL_MS>"
        s!"Status refresh interval (milliseconds) [default: {defaultStatusIntervalMs}]"
    ++ option "--peak-decay <PEAK_DECAY>"
        ("Per-sample decay of the input peak meters (0 < decay < 1) [default: "
          ++ Meter.defaultDecay.layout .plain ++ "]")
    ++ option "--json-status" "Print status lines as JSON"
    ++ option "--offline"
        "Run against a simulated 16 kHz mono / 48 kHz stereo link instead of devices"
    ++ option "--logs" s!"Enable file logging (debug) [env: {Config.logsVariable}=]"
    ++ option "--no-logs"
        ("Disable all file logging (overrides --logs and log env vars) [env: "
          ++ Config.noLogsVariable ++ "=]")
    ++ option "--log-timings" "Enable verbose timing logs"
    ++ "  -h, --help\n          Print help\n"
    ++ "  -V, --version\n          Print version\n"

/-- The variable whose names stand in for the devices in a listing. -/
def testDevicesVariable : String := "HFP_LOOPBACK_TEST_DEVICES"

namespace ArgumentError

def message : ArgumentError → String
  | unknownArgument => "unexpected argument found"
  | invalidValue => "one of the values isn't valid for an argument"
  | valueValidation => "invalid value for one of the arguments"
  | tooManyValues => "unexpected value for an argument found"
  | argumentConflict =>
    "an argument cannot be used with one or more of the other specified arguments"
  | displayHelp => helpText
  | displayVersion => versionText

end ArgumentError

/-! ### Running a session -/

/-- What a run has done so far. -/
structure Console where
  files : FileTree
  log : DebugLog
  trace : TraceFile := {}
  stdout : String := ""
  /-- The trace events, in order. -/
  traces : List TraceEvent := []

namespace Console

def print (c : Console) (text : String) : Console := { c with stdout := c.stdout ++ text }

/-- Logs and traces what was reported. -/
def report (c : Console) (now : Nat) (entries : List Entry) : Console :=
  entries.foldl
    (fun c entry =>
      match entry with
      | .notice n =>
        let (log, files) := c.log.write c.files (now / 1000000000) n.text
        { c with log, files }
      | .trace t => { c with files := c.trace.write c.files t, traces := c.traces ++ [t] })
    c

end Console

/-- A step of a run: it may fail, and what was done before stays done. -/
abbrev Run (α : Type) := ExceptT (Failure ProgramError) (StateM Console) α

namespace Run

def printLine (text : String) : Run Unit := modify (·.print (text ++ "\n"))

/-- Reports the entries of an operation and ends as the operation does. -/
def perform {σ α : Type} (now : Nat) (o : Outcome σ α) : Run (Session σ × α) := do
  modify (·.report now o.entries)
  match o.result with
  | .ok value => return (o.session, value)
  | .error (.error err) => throw (.error (.session err))
  | .error .crash => throw .crash

def printStatus (c : Config) (s : Status) : Run Unit :=
  if c.jsonStatus then printLine s.json else printLine (s.text ++ "\n")

variable {σ : Type} [Link σ]

/-- Lets the time of a run pass, reporting the status at every interval before its end. -/
def passTime (c : Config) (now : Nat) (s : Session σ) : Run (Session σ) := do
  let duration := c.durationSecs * 1000000000
  let interval := c.statusIntervalMs * 1000000
  let ticks := (duration - 1) / interval
  let s ← (List.range ticks).foldlM
    (fun s (i : Nat) => do
      let (s, _) ← perform (now + (i + 1) * interval) (s.pump interval)
      printStatus c s.status
      return s)
    s
  let (s, _) ← perform (now + duration) (s.pump (duration - ticks * interval))
  return s

def exportRecording (c : Config) (now : Nat) (s : Session σ) (kind : RecordingKind) :
    Run (Session σ) := do
  let (files, outcome) := s.exportTo (← get).files kind c.exportDir now
  modify fun console => { console with files }
  let (s, wav) ← perform now outcome
  printLine s!"Wrote {wav.path} ({wav.bytes} bytes)"
  return s

def session (c : Config) (now : Nat) (s : Session σ) : Run Unit := do
  let some path := c.inputFile | throw (.error .noInputFile)
  let (s, clip) ← perform now (s.loadFile (← get).files path)
  printLine s!"Loaded {path} ({clip.frameCount} frames, {clip.channels} ch, {clip.rate} Hz)"
  let (s, _) ← perform now (s.start now)
  let looping := if s.loopMode then ", looping" else ""
  let simulated := if s.isOffline then " (offline)" else ""
  printLine (s!"Loopback running for {c.durationSecs}s" ++ looping ++ simulated)
  let s ← passTime c now s
  let now := now + c.durationSecs * 1000000000
  let (s, _) ← perform now (s.stop now)
  printStatus c s.status
  if c.noExport then return
  let s ← exportRecording c now s .played
  let _ ← exportRecording c now s .recorded

def sessionOf (w : Surroundings) (c : Config) : Run Unit := do
  if c.offline then
    let link : OfflineLink := { output := offlineOutputFormat, input := offlineInputFormat }
    session c w.now (Session.offline c.options c.loopPlayback c.logTimings link)
  else
    let (notices, opened) :=
      Session.overDevices c.options c.loopPlayback c.logTimings w.host c.inputDevice c.outputDevice
    modify (·.report w.now (notices.map .notice))
    match opened with
    | .ok s => session c w.now s
    | .error err => throw (.error (.session err))

end Run

/-! ### Running the program -/

/-- What is written to the crash log about a run that crashed. -/
def brokenRunLine (now : Nat) : String :=
  crashLine (now / 1000000000) programName (some "no WAV header for a rate of zero")

/-- The variable that names the file for trace events. -/
def traceVariable : String := "HFP_LOOPBACK_TRACE_LOG"

/-- A console before anything is reported.  If anything is logged, the debug log and the trace file
    are created here. -/
def openConsole (w : Surroundings) (c : Config) : Console :=
  let (log, files) := DebugLog.configure c.loggingEnabled w.files w.temporary
  let (trace, files) :=
    if c.loggingEnabled then
      TraceFile.openAt files (tracePath (w.env traceVariable) w.temporary)
    else ({}, files)
  { files, log, trace }

/-- Runs a session with logging around it. -/
def launch (w : Surroundings) (c : Config) : Execution :=
  let begun :=
    (openConsole w c).report w.now
      [.notice .programStarted, .notice (.logFile (debugLogPath w.temporary))]
  let (result, console) := (Run.sessionOf w c).run.run begun
  let leave (ending : Ending) (stderr : String) (last : List Notice) : Execution :=
    let console := console.report w.now (last.map .notice)
    { ending, stdout := console.stdout, stderr, files := console.files, traces := console.traces }
  match result with
  | .ok () => leave (.exit 0) "" [.programExiting]
  | .error (.error err) =>
    leave (.exit 1) err.report [.programExiting, .exitWithError err.fullMessage]
  | .error .crash =>
    let execution := leave .crash "" []
    if c.loggingEnabled then
      { execution with files := writeCrash execution.files w.temporary (brokenRunLine w.now) }
    else execution

/-- Runs the program on a command line without its name. -/
def execute (w : Surroundings) (arguments : List String) : Execution :=
  match Config.ofArguments w.env arguments with
  | .error .displayHelp => { ending := .exit 0, stdout := helpText, files := w.files }
  | .error .displayVersion => { ending := .exit 0, stdout := versionText, files := w.files }
  | .error err =>
    { ending := .exit 2
      stderr := s!"error: {err.message}\n\nFor more information, try '--help'.\n"
      files := w.files }
  | .ok c =>
    match c.validate w.files with
    | (_, .error err) =>
      { ending := .exit 1, stderr := (ProgramError.config err).report, files := w.files }
    | (c, .ok ()) =>
      if c.listDevices then
        let (stdout, stderr) := deviceListing w.host (w.env testDevicesVariable)
        { ending := .exit 0, stdout, stderr, files := w.files }
      else launch w c

end Loopback
