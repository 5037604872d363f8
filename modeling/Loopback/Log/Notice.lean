import Loopback.Decimal.Fixed
import Loopback.Sample.Pcm
import Loopback.Stream

/-! # What is noted in the debug log

    Every message that the program writes to its debug log is a `Notice`, worded in one place.
-/

namespace Loopback

inductive RecordingKind where
  | played
  | recorded
deriving DecidableEq, Repr, Inhabited

namespace RecordingKind

/-- The word for a recording in messages and file names. -/
def label : RecordingKind → String
  | played => "played"
  | recorded => "recorded"

end RecordingKind

inductive Notice where
  /-- The lock around shared state was found poisoned and used all the same. -/
  | lockRecovered (context : String)
  /-- A device was opened with its default format. -/
  | deviceOpened (direction : Direction) (name : String) (format : SampleFormat)
      (rate channels : Nat)
  /-- Both devices of a session are open. -/
  | devicesReady (input output : String)
  /-- A running stream reported a failure. -/
  | streamFailed (direction : Direction) (cause : String)
  /-- A clip was made the playback buffer. -/
  | clipLoaded (frames channels rate : Nat)
  /-- The clip will be played at another rate than its own. -/
  | rateMismatch (clip output : Nat)
  /-- The engine is about to start its link. -/
  | engineStarting (output input : StreamFormat)
  /-- The engine stopped its link. -/
  | engineStopped (played recorded : Nat)
  /-- A level was asked for before the first start. -/
  | peakBeforeStart
  /-- The level of a missing channel was asked for. -/
  | peakOutOfRange (channel live : Nat)
  /-- How long it took to decode a file. -/
  | decodeTiming (frames channels nanos : Nat)
  /-- How long it took to start. -/
  | startTiming (nanos : Nat)
  /-- How long a run was, and what it counted. -/
  | runTiming (nanos played recorded skipped dropped : Nat)
  /-- A recording was too short for the run. -/
  | recordingOverflowed (kind : RecordingKind) (kept dropped : Nat)
  /-- A session could not be stopped when it was dropped. -/
  | sessionDropFailed (cause : String)
  /-- The program begins. -/
  | programStarted
  /-- Where the log is. -/
  | logFile (path : String)
  /-- The program ends. -/
  | programExiting
  /-- The program ends with an error. -/
  | exitWithError (cause : String)
  /-- Anything else. -/
  | remark (text : String)
deriving DecidableEq, Repr, Inhabited

/-- Nanoseconds as milliseconds with two places. -/
def millisText (nanos : Nat) : String := Decimal.fixed 2 nanos 1000000

/-- A quoted text, with the characters escaped that would not show. -/
def quoted (text : String) : String :=
  let escape (c : Char) : String :=
    if c == '"' then "\\\""
    else if c == '\\' then "\\\\"
    else if c == '\n' then "\\n"
    else if c == '\r' then "\\r"
    else if c == '\t' then "\\t"
    else if c == '\x00' then "\\0"
    else String.singleton c
  "\"" ++ String.join (text.toList.map escape) ++ "\""

namespace Notice

def text : Notice → String
  | lockRecovered context => s!"Mutex poisoned in {context}; recovering"
  | deviceOpened direction name format rate channels =>
    s!"CpalDuplex {direction.label} '{name}': format={format.name} sample_rate={rate}Hz "
      ++ s!"channels={channels}"
  | devicesReady input output => s!"LoopbackSession devices: input='{input}' output='{output}'"
  | streamFailed direction cause => s!"audio_stream_error({direction.label}): {cause}"
  | clipLoaded frames channels rate =>
    s!"DuplexLoopback::load_audio_data() - loaded {frames} frames, {channels} channels, {rate} Hz"
  | rateMismatch clip output =>
    s!"clip is {clip} Hz but output runs at {output} Hz; playing without resampling"
  | engineStarting output input =>
    s!"DuplexLoopback::start() - output: {output.text}; input: {input.text}"
  | engineStopped played recorded =>
    s!"DuplexLoopback::stop() - played {played} frames, recorded {recorded} frames"
  | peakBeforeStart => "peak_level() called before start()"
  | peakOutOfRange channel live =>
    s!"peak_level(), index out of range, 0 <= {channel} < {live}"
  | decodeTiming frames channels nanos =>
    s!"timing|phase=wav_decode|frames={frames}|channels={channels}|elapsed_ms="
      ++ millisText nanos
  | startTiming nanos => "timing|phase=loopback_start|elapsed_ms=" ++ millisText nanos
  | runTiming nanos played recorded skipped dropped =>
    let millis := nanos / 1000000
    s!"timing|phase=loopback_run|elapsed_ms={millis}|played={played}|recorded={recorded}"
      ++ s!"|skipped={skipped}|dropped={dropped}"
  | recordingOverflowed kind kept dropped =>
    s!"{kind.label} recording overflowed: kept {kept} frames, dropped {dropped}"
  | sessionDropFailed cause => s!"LoopbackSession drop: {cause}"
  | programStarted => "=== HFP Loopback Started ==="
  | logFile path => "Log file: " ++ quoted path
  | programExiting => "=== HFP Loopback Exiting ==="
  | exitWithError cause => s!"Exit with error: {cause}"
  | remark text => text

end Notice

end Loopback
