import Loopback.Sample.Pcm
import Loopback.Stream
import Loopback.Text.Blank

/-! # Audio devices

    A host offers devices, each with an input side, an output side, both or neither.  Whatever can
    fail on a device carries the text of its failure, or none if it succeeds.

    * `Host.names` lists the devices of a direction; one whose name cannot be read is left out.
    * `Host.find` picks the device to use, by name or by default.
    * `deviceListing` is the listing for people.
-/

namespace Loopback

/-- One side of a device. -/
structure DeviceSide where
  rate : Nat
  channels : Nat
  format : SampleFormat
  /-- Why the side does not tell its format. -/
  configError : Option String := none
  /-- Why no stream can be built. -/
  buildError : Option String := none
  /-- Why a stream cannot be started. -/
  playError : Option String := none
  /-- Why a stream cannot be paused. -/
  pauseError : Option String := none
deriving DecidableEq, Repr, Inhabited

structure Device where
  name : String := ""
  /-- Why the name cannot be read. -/
  nameError : Option String := none
  input : Option DeviceSide := none
  output : Option DeviceSide := none
deriving DecidableEq, Repr, Inhabited

namespace Device

def side? (d : Device) : Direction → Option DeviceSide
  | .input => d.input
  | .output => d.output

def name? (d : Device) : Option String := if d.nameError.isSome then none else some d.name

end Device

structure Host where
  devices : List Device := []
  defaultInput : Option Nat := none
  defaultOutput : Option Nat := none
  /-- Why the devices cannot be listed. -/
  devicesError : Option String := none
deriving DecidableEq, Repr, Inhabited

/-! ### Failures -/

/-- What a device is doing when it fails. -/
inductive FaultStage where
  | config
  | build
  | transport
  | running
deriving DecidableEq, Repr

/-- A failure that only the platform can explain. -/
def backendFault (cause : String) : String := "A backend-specific error has occurred: " ++ cause

/-- The message of a failure.  Some kinds of each stage are known by name. -/
def FaultStage.message (stage : FaultStage) (cause : String) : String :=
  let unplugged :=
    "The requested device is no longer available. For example, it has been unplugged."
  match stage, cause with
  | .config, "DeviceNotAvailable" => unplugged
  | .config, "StreamTypeNotSupported" =>
    "The requested stream type is not supported by the device."
  | .build, "DeviceNotAvailable" => unplugged
  | .build, "StreamConfigNotSupported" =>
    "The requested stream configuration is not supported by the device."
  | .build, "InvalidArgument" =>
    "The requested device does not support this capability (invalid argument)"
  | .build, "StreamIdOverflow" => "Adding a new stream ID would cause an overflow"
  | .transport, "DeviceNotAvailable" =>
    "the device associated with the stream is no longer available"
  | .running, "DeviceNotAvailable" => unplugged
  | _, _ => backendFault cause

/-! ### Finding devices -/

namespace Host

/-- The device at an index, or an empty one if the host has lost it. -/
def device (h : Host) (index : Nat) : Device := h.devices[index]?.getD {}

/-- The indices of the devices that have this side, in order. -/
def indices (h : Host) (direction : Direction) : Except StreamError (List Nat) :=
  match h.devicesError with
  | some cause => .error (.enumerate (backendFault cause))
  | none =>
    .ok ((List.range h.devices.length).filter fun i => ((h.device i).side? direction).isSome)

def names (h : Host) (direction : Direction) : Except StreamError (List String) :=
  (h.indices direction).map fun is => is.filterMap fun i => (h.device i).name?

def default? (h : Host) (direction : Direction) : Option Nat :=
  let wanted := match direction with
    | .input => h.defaultInput
    | .output => h.defaultOutput
  wanted.filter (· < h.devices.length)

/-- The device to use: the first one with the wanted name, or else the default. -/
def find (h : Host) (direction : Direction) (wanted : Option String) : Except StreamError Nat :=
  match wanted with
  | none =>
    match h.default? direction with
    | some i => .ok i
    | none => .error (.noDefaultDevice direction)
  | some name => do
    let is ← h.indices direction
    match is.find? fun i => (h.device i).name? == some name with
    | some i => .ok i
    | none => .error (.deviceNotFound name)

end Host

/-! ### Listing -/

def deviceLines (direction : String) (names : List String) : String :=
  if names.isEmpty then s!"No audio {direction} devices detected.\n"
  else
    s!"Available audio {direction} devices:\n"
      ++ String.join (names.map fun name => s!"  - {name}\n")

/-- Names in one text, separated by commas. -/
def namesOfText (text : String) : List String :=
  ((text.splitOn ",").map Text.trim).filter (!·.isEmpty)

/-- The listing of a host's devices, and the messages about what could not be listed.  If a text of
    names is given, it replaces the devices of both directions. -/
def deviceListing (h : Host) (stated : Option String) : String × String :=
  let listing (inputs outputs : List String) :=
    deviceLines "input" inputs ++ deviceLines "output" outputs
  match stated with
  | some text => (listing (namesOfText text) (namesOfText text), "")
  | none =>
    let look (direction : Direction) : List String × String :=
      match h.names direction with
      | .ok names => (names, "")
      | .error err => ([], s!"Failed to list audio {direction.label} devices: {err.message}\n")
    let (inputs, inputComplaint) := look .input
    let (outputs, outputComplaint) := look .output
    (listing inputs outputs, inputComplaint ++ outputComplaint)

end Loopback
