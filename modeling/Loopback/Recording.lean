import Loopback.Frame

/-! # Recordings

    A recording keeps frames up to a fixed number and counts the ones that came too late.

    * `Recording.write` stores a block of interleaved samples laid out at the recording's own width.
    * `Recording.writeFrame` stores one frame of any width, cut or padded with silence.
    * What has been stored is never touched again.
-/

namespace Loopback

/-- Interleaved audio with a hard limit on its frames. -/
structure Recording where
  /-- Samples in a frame, at least one. -/
  channels : Nat
  /-- The most frames that are kept. -/
  capacity : Nat
  /-- The frames kept so far, oldest first. -/
  frames : Array Frame
  /-- Frames that came when there was no room. -/
  dropped : Nat
deriving DecidableEq, Repr, Inhabited

namespace Recording

/-- An empty recording, of at least one channel. -/
def new (channels capacity : Nat) : Recording :=
  { channels := max channels 1, capacity, frames := #[], dropped := 0 }

def written (r : Recording) : Nat := r.frames.size

def room (r : Recording) : Nat := r.capacity - r.written

def isFull (r : Recording) : Bool := r.capacity ≤ r.written

/-- The kept audio, interleaved. -/
def samples (r : Recording) : List Sample := r.frames.toList.flatten

/-- Stores as many of the first `count` whole frames as fit; also returns how many did. -/
def write (r : Recording) (data : List Sample) (count : Nat) : Recording × Nat :=
  let requested := min count (Frame.available r.channels data)
  let stored := min requested r.room
  ({ r with
      frames := r.frames ++ (Frame.cut r.channels stored data).toArray
      dropped := r.dropped + (requested - stored) }, stored)

/-- Stores one frame of any width; also returns whether it fitted. -/
def writeFrame (r : Recording) (frame : Frame) : Recording × Bool :=
  if r.isFull then ({ r with dropped := r.dropped + 1 }, false)
  else ({ r with frames := r.frames.push (frame.fit r.channels) }, true)

def writeFrames (r : Recording) (frames : List Frame) : Recording :=
  frames.foldl (fun r frame => (r.writeFrame frame).1) r

end Recording

end Loopback
