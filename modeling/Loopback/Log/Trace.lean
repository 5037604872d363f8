import Loopback.Files
import Loopback.Log.Notice

/-! # Trace events

    A session reports the main events of its life in a structured form, whether or not anything is
    logged.  A `TraceFile` takes one line for each event.  The file exists from the moment it is
    opened, even if no event follows.
-/

namespace Loopback

inductive TraceEvent where
  | clipLoaded (frames channels rate : Nat)
  | started (output input : StreamFormat) (loopMode : Bool)
  | stopped (played recorded runMillis : Nat)
  | exported (kind : RecordingKind) (frames bytes : Nat) (path : String)
deriving DecidableEq, Repr, Inhabited

inductive TraceValue where
  | number (n : Nat)
  | flag (b : Bool)
  | text (s : String)
deriving DecidableEq, Repr, Inhabited

namespace TraceValue

/-- A character inside a quoted text of an object. -/
def escaped (c : Char) : String :=
  if c == '"' then "\\\""
  else if c == '\\' then "\\\\"
  else if c.toNat < 0x20 then
    "\\u" ++ Decimal.padLeft 4 (String.ofList (Nat.toDigits 16 c.toNat))
  else String.singleton c

def json : TraceValue → String
  | number n => toString n
  | flag b => if b then "true" else "false"
  | text s => "\"" ++ String.join (s.toList.map escaped) ++ "\""

end TraceValue

namespace TraceEvent

def name : TraceEvent → String
  | clipLoaded .. => "loopback_clip_loaded"
  | started .. => "loopback_started"
  | stopped .. => "loopback_stopped"
  | exported .. => "loopback_exported"

def fields : TraceEvent → List (String × TraceValue)
  | clipLoaded frames channels rate =>
    [("frames", .number frames), ("channels", .number channels), ("sample_rate", .number rate)]
  | started output input loopMode =>
    [("output", .text output.text), ("input", .text input.text), ("loop_mode", .flag loopMode)]
  | stopped played recorded runMillis =>
    [("played", .number played), ("recorded", .number recorded), ("run_ms", .number runMillis)]
  | exported kind frames bytes path =>
    [("kind", .text kind.label), ("frames", .number frames), ("bytes", .number bytes),
      ("path", .text path)]

/-- The fields of an event in the form of an object. -/
def fieldsText (e : TraceEvent) : String :=
  let named := ("message", TraceValue.text e.name) :: e.fields
  "\x7b" ++ ",".intercalate (named.map fun (name, value) => s!"\"{name}\":" ++ value.json) ++ "\x7d"

def line (e : TraceEvent) : String :=
  "\x7b\"level\":\"INFO\",\"fields\":" ++ e.fieldsText ++ "\x7d\n"

end TraceEvent

/-- What a session reports while it works. -/
inductive Entry where
  /-- A message of the debug log. -/
  | notice (n : Notice)
  /-- A trace event. -/
  | trace (t : TraceEvent)
deriving DecidableEq, Repr, Inhabited

/-! ### The trace file -/

/-- The path of the trace file: the stated one, or else one in the temporary directory. -/
def tracePath (stated : Option String) (temporary : String) : String :=
  stated.getD (temporary ++ "/hfp_loopback_trace.jsonl")

structure TraceFile where
  /-- Where events are written, if they are. -/
  path : Option String := none
deriving DecidableEq, Repr, Inhabited

namespace TraceFile

/-- Opens the file at a path and creates it if need be.  If it cannot be written, no events are. -/
def openAt (files : FileTree) (path : String) : TraceFile × FileTree :=
  match files.append path ByteArray.empty with
  | .ok files => ({ path := some path }, files)
  | .error _ => ({}, files)

/-- Appends the line of an event. -/
def write (f : TraceFile) (files : FileTree) (e : TraceEvent) : FileTree :=
  match f.path with
  | none => files
  | some path => (files.append path e.line.toUTF8).toOption.getD files

end TraceFile

end Loopback
