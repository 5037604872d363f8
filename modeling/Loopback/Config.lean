import Loopback.Engine

/-! # Configurations

    A configuration is what a user chooses for one run of the program.  Every choice has a default,
    so the empty configuration is `{}`.  `Loopback.Config.Arguments` reads one from a command line
    and `Loopback.Config.Validate` says which ones the program accepts.
-/

namespace Loopback

/-- The default length of a run, in seconds. -/
def defaultDurationSecs : Nat := 10

/-- The default time between two status reports, in milliseconds. -/
def defaultStatusIntervalMs : Nat := 500

/-- The default directory for exports. -/
def defaultExportDir : String := "."

/-- The longest recording length that is accepted, in seconds. -/
def maxRecordSecondsLimit : Nat := 3600

/-- The shortest accepted time between two status reports, in milliseconds. -/
def minStatusIntervalMs : Nat := 50

/-- The longest accepted time between two status reports, in milliseconds. -/
def maxStatusIntervalMs : Nat := 10000

/-- The longest accepted device name, in bytes. -/
def maxDeviceNameBytes : Nat := 256

/-- The choices for one run of the program. -/
structure Config where
  /-- The WAV file to play. -/
  inputFile : Option String := none
  /-- The name of the input device, if not the default. -/
  inputDevice : Option String := none
  /-- The name of the output device, if not the default. -/
  outputDevice : Option String := none
  /-- List the devices instead of running. -/
  listDevices : Bool := false
  /-- Play the clip once only. -/
  noLoop : Bool := false
  /-- The length of the run, in seconds. -/
  durationSecs : Nat := defaultDurationSecs
  /-- The length of each recording, in seconds. -/
  maxRecordSeconds : Nat := defaultMaxRecordSeconds
  /-- Where recordings are exported to. -/
  exportDir : String := defaultExportDir
  /-- Do not export recordings. -/
  noExport : Bool := false
  /-- The time between two status reports, in milliseconds. -/
  statusIntervalMs : Nat := defaultStatusIntervalMs
  /-- The decay of the meters. -/
  peakDecay : Sample := Meter.defaultDecay
  /-- Report the status as an object. -/
  jsonStatus : Bool := false
  /-- Run over a simulated link. -/
  offline : Bool := false
  /-- Write the debug log. -/
  logs : Bool := false
  /-- Write no log, whatever else is asked for. -/
  noLogs : Bool := false
  /-- Also log how long things take. -/
  logTimings : Bool := false
deriving DecidableEq, Repr, Inhabited

namespace Config

def loggingEnabled (c : Config) : Bool := (c.logs || c.logTimings) && !c.noLogs

def loopPlayback (c : Config) : Bool := !c.noLoop

def options (c : Config) : Options :=
  { maxRecordSeconds := c.maxRecordSeconds, peakDecay := c.peakDecay }

end Config

end Loopback
