import Loopback.Peak
import Loopback.Sample.Text

/-! # Status

    A status is a snapshot of a session, written as text for people, one line for each item, or as
    an object for programs, with its fields in a fixed order.
-/

namespace Loopback

/-- A snapshot of a session. -/
structure Status where
  running : Bool
  started : Bool
  loopMode : Bool
  playedFrames : Nat
  recordedFrames : Nat
  position : Nat
  /-- The frames of the clip, if there is one. -/
  clipFrames : Option Nat
  skippedCallbacks : Nat
  droppedInputFrames : Nat
  /-- The levels of the input channels. -/
  peaks : List Sample
deriving DecidableEq, Repr, Inhabited

namespace Status

/-- The levels, in decibels with one place. -/
def peaksText (peaks : List Sample) : String :=
  if peaks.isEmpty then "-"
  else
    ", ".intercalate <| peaks.mapIdx fun channel level =>
      s!"ch{channel} " ++ level.decibels.fixed 1 ++ " dBFS"

/-- The lines of a status.  Skipped callbacks and dropped frames get a line only if there were any.
    -/
def lines (s : Status) : List String :=
  let state := if s.running then "Running" else "Stopped"
  let cursor := match s.clipFrames with
    | some total => s!"Cursor: {s.position} / {total}"
    | none => s!"Cursor: {s.position}"
  let troubles :=
    if 0 < s.skippedCallbacks || 0 < s.droppedInputFrames then
      [s!"Skipped callbacks: {s.skippedCallbacks}, dropped input frames: {s.droppedInputFrames}"]
    else []
  [s!"Status: {state}", s!"Played frames: {s.playedFrames}",
    s!"Recorded frames: {s.recordedFrames}", cursor]
    ++ troubles ++ ["Peaks: " ++ peaksText s.peaks]

def text (s : Status) : String := "\n".intercalate s.lines

/-- The fields of a status with their values, as they are written in an object. -/
def fields (s : Status) : List (String × String) :=
  let flag (b : Bool) : String := if b then "true" else "false"
  [("running", flag s.running), ("started", flag s.started), ("loop_mode", flag s.loopMode),
    ("played_frames", toString s.playedFrames), ("recorded_frames", toString s.recordedFrames),
    ("playback_position", toString s.position),
    ("clip_frames", (s.clipFrames.map toString).getD "null"),
    ("skipped_callbacks", toString s.skippedCallbacks),
    ("dropped_input_frames", toString s.droppedInputFrames),
    ("peaks", "[" ++ ",".intercalate (s.peaks.map (·.layout .json)) ++ "]")]

def json (s : Status) : String :=
  "\x7b" ++ ",".intercalate (s.fields.map fun (name, value) => s!"\"{name}\":{value}") ++ "\x7d"

end Status

end Loopback
