/-! # Duplex links

    A duplex link plays one stream out and takes another in.  The engine needs to know the format of
    each direction and to be able to start and stop the link; either may fail.

    * `Link` is what any such link offers.
    * `OfflineLink` needs no hardware: its callbacks are run by hand.
    * `ScriptedLink` starts and stops as it is told to.
-/

namespace Loopback

/-- The direction of a stream, seen from the program. -/
inductive Direction where
  | input
  | output
deriving DecidableEq, Repr, Inhabited

namespace Direction

def label : Direction → String
  | input => "input"
  | output => "output"

end Direction

/-- The negotiated format of one direction. -/
structure StreamFormat where
  /-- Frames in a second. -/
  rate : Nat
  /-- Samples in a frame. -/
  channels : Nat
deriving DecidableEq, Repr, Inhabited

namespace StreamFormat

def text (f : StreamFormat) : String := s!"{f.rate} Hz, {f.channels} ch"

end StreamFormat

/-- Why a link cannot be opened, started or stopped. -/
inductive StreamError where
  /-- The platform names no default device. -/
  | noDefaultDevice (direction : Direction)
  /-- No device has the wanted name. -/
  | deviceNotFound (name : String)
  /-- The devices cannot be listed. -/
  | enumerate (cause : String)
  /-- A device does not tell its format. -/
  | config (cause : String)
  /-- A stream cannot be built. -/
  | build (cause : String)
  /-- A stream cannot be started. -/
  | play (cause : String)
  /-- A stream cannot be paused. -/
  | pause (cause : String)
  /-- The device's samples have a format that cannot be streamed. -/
  | unsupportedFormat (format : String)
  /-- The link itself declined. -/
  | refused (reason : String)
deriving DecidableEq, Repr, Inhabited

namespace StreamError

def message : StreamError → String
  | noDefaultDevice direction => s!"no default {direction.label} device available"
  | deviceNotFound name => s!"audio device not found: {name}"
  | enumerate cause => s!"failed to enumerate audio devices: {cause}"
  | config cause => s!"failed to get device config: {cause}"
  | build cause => s!"failed to build audio stream: {cause}"
  | play cause => s!"failed to start audio stream: {cause}"
  | pause cause => s!"failed to stop audio stream: {cause}"
  | unsupportedFormat format => s!"unsupported sample format: {format}"
  | refused reason => s!"stream refused to start: {reason}"

end StreamError

/-- What the engine asks of a duplex link. -/
class Link (σ : Type) where
  /-- The format that goes out. -/
  outputFormat : σ → StreamFormat
  /-- The format that comes in. -/
  inputFormat : σ → StreamFormat
  /-- Begins to run callbacks. -/
  start : σ → σ × Except StreamError Unit
  /-- Ends running callbacks. -/
  stop : σ → σ × Except StreamError Unit

structure OfflineLink where
  output : StreamFormat
  input : StreamFormat
  /-- The reason the next start is refused for, if it is to be. -/
  failNextStart : Option String := none
deriving DecidableEq, Repr, Inhabited

namespace OfflineLink

/-- A refusal is used up by the start it refuses. -/
def start (l : OfflineLink) : OfflineLink × Except StreamError Unit :=
  match l.failNextStart with
  | some reason => ({ l with failNextStart := none }, .error (.refused reason))
  | none => (l, .ok ())

end OfflineLink

instance : Link OfflineLink where
  outputFormat := OfflineLink.output
  inputFormat := OfflineLink.input
  start := OfflineLink.start
  stop l := (l, .ok ())

/-- A link whose start and stop answer as given. -/
structure ScriptedLink where
  output : StreamFormat
  input : StreamFormat
  startResult : Except StreamError Unit
  stopResult : Except StreamError Unit

instance : Link ScriptedLink where
  outputFormat := ScriptedLink.output
  inputFormat := ScriptedLink.input
  start l := (l, l.startResult)
  stop l := (l, l.stopResult)

end Loopback
