import Loopback.Config
import Loopback.Files
import Loopback.Sample.Text
import Loopback.Stream
import Loopback.Text.Blank

/-! # Valid configurations

    `Config.validateIn` checks one choice after the other and reports the first one that is not
    acceptable.  The choices that concern files come last and are checked only if a session is to
    run.  The path of the input file is then replaced by its canonical path, so that a second check
    finds the same file.
-/

namespace Loopback

inductive ConfigError where
  | maxRecordSeconds (got : Nat)
  | durationSecs (limit got : Nat)
  | statusInterval (got : Nat)
  | peakDecay (got : Sample)
  /-- A device's name is blank. -/
  | blankDeviceName (direction : Direction)
  /-- No device can have the name. -/
  | unfitDeviceName (direction : Direction)
  /-- Devices are chosen for a simulated run. -/
  | offlineWithDevices
  | noInputFile
  | inputFileMissing (path : String) (cause : FileError)
  | inputNotAFile (path : String)
  | exportDirNotADirectory (path : String)
deriving DecidableEq, Repr, Inhabited

namespace ConfigError

def deviceFlag (direction : Direction) : String := s!"--{direction.label}-device"

/-- The error and its causes, outermost first. -/
def chain : ConfigError → List String
  | maxRecordSeconds got =>
    [s!"--max-record-seconds must be between 1 and {maxRecordSecondsLimit}, got {got}"]
  | durationSecs limit got =>
    [s!"--duration-secs must be between 1 and --max-record-seconds ({limit}), got {got}"]
  | statusInterval got =>
    [s!"--status-interval-ms must be between {minStatusIntervalMs} and {maxStatusIntervalMs}, "
      ++ s!"got {got}"]
  | peakDecay got =>
    ["--peak-decay must be greater than 0.0 and less than 1.0, got " ++ got.layout .plain]
  | blankDeviceName direction => [deviceFlag direction ++ " must not be empty"]
  | unfitDeviceName direction =>
    [deviceFlag direction
      ++ s!" must be <={maxDeviceNameBytes} bytes with no control characters"]
  | offlineWithDevices => ["--offline cannot be combined with --input-device or --output-device"]
  | noInputFile => ["--input-file is required (a WAV clip to play)"]
  | inputFileMissing path cause => [s!"input file '{path}' does not exist", cause.message]
  | inputNotAFile path => [s!"input file '{path}' is not a file"]
  | exportDirNotADirectory path => [s!"--export-dir '{path}' exists but is not a directory"]

end ConfigError

namespace Config

/-- The fault of a device name, if one is chosen. -/
def deviceNameFault? (direction : Direction) (name : Option String) : Option ConfigError :=
  match name with
  | none => none
  | some name =>
    if Text.isAllBlank name then some (.blankDeviceName direction)
    else if maxDeviceNameBytes < name.utf8ByteSize || name.toList.any Text.isControl then
      some (.unfitDeviceName direction)
    else none

/-- Whether the decay of the meters is acceptable: positive and below one. -/
def decays (decay : Sample) : Bool :=
  decay.isFinite && Sample.zero.below decay && decay.below Sample.one

/-- The first fault among the numbers. -/
def numberFault? (c : Config) : Option ConfigError :=
  if c.maxRecordSeconds < 1 || maxRecordSecondsLimit < c.maxRecordSeconds then
    some (.maxRecordSeconds c.maxRecordSeconds)
  else if c.durationSecs < 1 || c.maxRecordSeconds < c.durationSecs then
    some (.durationSecs c.maxRecordSeconds c.durationSecs)
  else if c.statusIntervalMs < minStatusIntervalMs || maxStatusIntervalMs < c.statusIntervalMs then
    some (.statusInterval c.statusIntervalMs)
  else if !decays c.peakDecay then some (.peakDecay c.peakDecay)
  else none

/-- The first fault in the choice of devices. -/
def deviceFault? (c : Config) : Option ConfigError :=
  deviceNameFault? .input c.inputDevice
    <|> deviceNameFault? .output c.outputDevice
    <|> if c.offline && (c.inputDevice.isSome || c.outputDevice.isSome) then
          some .offlineWithDevices
        else none

section

variable (c : Config) (fs : FileSystem)

/-- Whether the export directory exists and is no directory. -/
def exportDirBlocked : Bool :=
  !c.noExport && fs.pathExists c.exportDir && !fs.isDirectory c.exportDir

/-- The canonical path of the input file. -/
def locateInput : Except ConfigError String :=
  match c.inputFile with
  | none => .error .noInputFile
  | some path =>
    match fs.locate path with
    | .error cause => .error (.inputFileMissing path cause)
    | .ok place =>
      let canonical := fs.pathOf place
      if fs.isRegular place then .ok canonical else .error (.inputNotAFile canonical)

/-- Checks a configuration, and makes the input path canonical. -/
def validateIn : Config × Except ConfigError Unit :=
  match c.numberFault? <|> c.deviceFault? with
  | some err => (c, .error err)
  | none =>
    -- a listing needs no files
    if c.listDevices then (c, .ok ())
    else
      match c.locateInput fs with
      | .error err => (c, .error err)
      | .ok path =>
        let c := { c with inputFile := some path }
        if c.exportDirBlocked fs then (c, .error (.exportDirNotADirectory c.exportDir))
        else (c, .ok ())

end

/-- Checks a configuration against the files there are. -/
def validate (c : Config) (files : FileTree) : Config × Except ConfigError Unit :=
  c.validateIn files.fileSystem

end Config

end Loopback
