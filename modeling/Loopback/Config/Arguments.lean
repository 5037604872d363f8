import Loopback.Config
import Loopback.Decimal.Nearest
import Loopback.Sample.Text

/-! # Command lines

    A command line is read word by word into a configuration.

    * A switch stands alone; a setting has a value, joined to it by `=` or as the next word.
    * No flag may be given twice, names are not abbreviated, and there are no other words.
    * The value of a setting is checked only when the next flag or the end of the line is reached,
      so of two faults the one that is noticed first is reported.  A misplaced word is noticed at
      once.
    * Two switches can be set by environment variables, which are read only if the switch is not
      given.
-/

namespace Loopback

/-- Why a command line gives no configuration. -/
inductive ArgumentError where
  /-- A flag that does not exist, or a word that belongs to no setting. -/
  | unknownArgument
  /-- A setting without a value, or a value that cannot be one. -/
  | invalidValue
  /-- A number that is none, or is too large. -/
  | valueValidation
  /-- A switch with a value. -/
  | tooManyValues
  /-- A flag given twice. -/
  | argumentConflict
  /-- Help is asked for. -/
  | displayHelp
  /-- The version is asked for. -/
  | displayVersion
deriving DecidableEq, Repr, Inhabited

inductive Switch where
  | listDevices | noLoop | noExport | jsonStatus | offline | logs | noLogs | logTimings
deriving DecidableEq, Repr, Inhabited

inductive Setting where
  | inputFile | inputDevice | outputDevice | durationSecs | maxRecordSeconds | exportDir
  | statusIntervalMs | peakDecay
deriving DecidableEq, Repr, Inhabited

inductive Flag where
  | switch (s : Switch)
  | setting (s : Setting)
  | help
  | version
deriving DecidableEq, Repr, Inhabited

namespace Flag

/-- The flags by name. -/
def table : List (String × Flag) :=
  [("input-file", .setting .inputFile),
    ("input-device", .setting .inputDevice),
    ("output-device", .setting .outputDevice),
    ("list-devices", .switch .listDevices),
    ("no-loop", .switch .noLoop),
    ("duration-secs", .setting .durationSecs),
    ("max-record-seconds", .setting .maxRecordSeconds),
    ("export-dir", .setting .exportDir),
    ("no-export", .switch .noExport),
    ("status-interval-ms", .setting .statusIntervalMs),
    ("peak-decay", .setting .peakDecay),
    ("json-status", .switch .jsonStatus),
    ("offline", .switch .offline),
    ("logs", .switch .logs),
    ("no-logs", .switch .noLogs),
    ("log-timings", .switch .logTimings),
    ("help", .help),
    ("version", .version)]

def ofName? (name : String) : Option Flag := table.lookup name

end Flag

/-! ### Values -/

namespace Config

/-- Decimal digits, at least one, as a number. -/
def digits? (cs : List Char) : Option Nat :=
  if cs.isEmpty || !cs.all Char.isDigit then none else some (Decimal.digitsValue cs)

/-- A natural number below a limit; a plus sign may precede it. -/
def natural? (limit : Nat) (text : String) : Option Nat :=
  let digits := match text.toList with
    | '+' :: rest => rest
    | cs => cs
  (digits? digits).filter (· < limit)

/-- As `natural?`, but zero may also be written with a minus sign. -/
def signedNatural? (limit : Nat) (text : String) : Option Nat :=
  match text.toList with
  | '-' :: rest => (digits? rest).filter (· = 0)
  | _ => natural? limit text

def turnOn (c : Config) : Switch → Config
  | .listDevices => { c with listDevices := true }
  | .noLoop => { c with noLoop := true }
  | .noExport => { c with noExport := true }
  | .jsonStatus => { c with jsonStatus := true }
  | .offline => { c with offline := true }
  | .logs => { c with logs := true }
  | .noLogs => { c with noLogs := true }
  | .logTimings => { c with logTimings := true }

/-- A path given as a value; it must not be empty. -/
def path (text : String) : Except ArgumentError String :=
  if text.isEmpty then .error .invalidValue else .ok text

/-- A number given as a value. -/
def number {α : Type} (value : Option α) : Except ArgumentError α :=
  match value with
  | some value => .ok value
  | none => .error .valueValidation

def assign (c : Config) (setting : Setting) (text : String) : Except ArgumentError Config :=
  match setting with
  | .inputFile => (path text).map fun file => { c with inputFile := some file }
  | .inputDevice => .ok { c with inputDevice := some text }
  | .outputDevice => .ok { c with outputDevice := some text }
  | .durationSecs => (number (natural? (2 ^ 64) text)).map fun n => { c with durationSecs := n }
  | .maxRecordSeconds =>
    (number (signedNatural? (2 ^ 32) text)).map fun n => { c with maxRecordSeconds := n }
  | .exportDir => (path text).map fun dir => { c with exportDir := dir }
  | .statusIntervalMs =>
    (number (natural? (2 ^ 64) text)).map fun n => { c with statusIntervalMs := n }
  | .peakDecay => (number (Sample.read? text)).map fun s => { c with peakDecay := s }

end Config

/-! ### Words -/

inductive Word where
  /-- Two dashes: what follows is no flag. -/
  | divider
  /-- A flag by name, with the value joined to it. -/
  | named (name : String) (value : Option String)
  /-- A flag of one letter; the other letters are ignored. -/
  | letter (c : Char)
  /-- Anything else. -/
  | plain (text : String)
deriving DecidableEq, Repr, Inhabited

def Word.ofText (text : String) : Word :=
  match text.toList with
  | ['-', '-'] => .divider
  | '-' :: '-' :: cs =>
    let name := String.ofList (cs.takeWhile (· != '='))
    match cs.dropWhile (· != '=') with
    | [] => .named name none
    | _ :: value => .named name (some (String.ofList value))
  | '-' :: c :: _ => .letter c
  | _ => .plain text

/-- A command line that has been read in part. -/
structure CommandLine where
  config : Config := {}
  /-- The flags that have been used. -/
  used : List Flag := []
  /-- A setting that is not assigned yet, with its value if that has come. -/
  pending : Option (Setting × Option String) := none
  /-- Whether the divider has come. -/
  divided : Bool := false
deriving DecidableEq, Repr, Inhabited

namespace CommandLine

/-- Marks a flag as used, unless it already is. -/
def use (l : CommandLine) (flag : Flag) : Except ArgumentError CommandLine :=
  if l.used.contains flag then .error .argumentConflict else .ok { l with used := flag :: l.used }

def set (l : CommandLine) (setting : Setting) (value : String) :
    Except ArgumentError CommandLine := do
  let l ← l.use (.setting setting)
  let config ← l.config.assign setting value
  return { l with config }

/-- Assigns the pending setting. -/
def settle (l : CommandLine) : Except ArgumentError CommandLine :=
  match l.pending with
  | none => .ok l
  | some (_, none) => .error .invalidValue
  | some (setting, some value) => { l with pending := none }.set setting value

/-- Reads a flag, with the value joined to it. -/
def readFlag (l : CommandLine) (flag : Flag) (value : Option String) :
    Except ArgumentError CommandLine :=
  match flag, value with
  | .setting setting, none => do
    let l ← l.settle
    return { l with pending := some (setting, none) }
  | .setting setting, some value => do
    let l ← l.settle
    l.set setting value
  -- reported before any fault of a setting that is still pending
  | _, some _ => .error .tooManyValues
  | .switch switch, none => do
    let l ← l.settle
    let l ← l.use flag
    return { l with config := l.config.turnOn switch }
  | .help, none => do
    let _ ← l.settle
    .error .displayHelp
  | .version, none => do
    let _ ← l.settle
    .error .displayVersion

/-- Reads a word that is no flag: the value of the pending setting. -/
def readPlain (l : CommandLine) (text : String) : Except ArgumentError CommandLine :=
  match l.pending, l.divided with
  | some (setting, none), false => .ok { l with pending := some (setting, some text) }
  | _, _ => .error .unknownArgument

def read (l : CommandLine) (text : String) : Except ArgumentError CommandLine :=
  if l.divided then l.readPlain text
  else
    match Word.ofText text with
    | .divider => .ok { l with divided := true }
    | .named name value =>
      match Flag.ofName? name with
      | some flag => l.readFlag flag value
      | none => .error .unknownArgument
    | .letter 'h' => l.readFlag .help none
    | .letter 'V' => l.readFlag .version none
    | .letter _ => .error .unknownArgument
    | .plain text => l.readPlain text

/-- Turns a switch on if it was not used and its environment variable says so. -/
def consult (l : CommandLine) (switch : Switch) (value : Option String) :
    Except ArgumentError CommandLine :=
  if l.used.contains (.switch switch) then .ok l
  else
    match value with
    | none | some "false" => .ok l
    | some "true" => .ok { l with config := l.config.turnOn switch }
    | some _ => .error .invalidValue

end CommandLine

namespace Config

def logsVariable : String := "HFP_LOOPBACK_LOGS"

def noLogsVariable : String := "HFP_LOOPBACK_NO_LOGS"

/-- Reads a command line without the program's name; `env` gives the values of environment
    variables. -/
def ofArguments (env : String → Option String) (arguments : List String) :
    Except ArgumentError Config := do
  let line ← arguments.foldlM CommandLine.read {}
  let line ← line.settle
  let line ← line.consult .logs (env logsVariable)
  let line ← line.consult .noLogs (env noLogsVariable)
  return line.config

end Config

end Loopback
