import Loopback.Frame

/-! # The ring between the callbacks

    Input and output callbacks of a device pair run on their own.  Captured samples cross from one
    to the other through a first-in, first-out ring of limited size.  Only whole frames are offered
    and taken, so the channels never slip against each other.
-/

namespace Loopback

/-- A queue of samples of limited size. -/
structure Ring where
  /-- The most samples it holds. -/
  capacity : Nat
  /-- The samples waiting, oldest first. -/
  items : Array Sample := #[]
deriving DecidableEq, Repr, Inhabited

namespace Ring

def new (capacity : Nat) : Ring := { capacity }

def free (r : Ring) : Nat := r.capacity - r.items.size

def fits (r : Ring) (frame : Frame) : Bool := frame.length ≤ r.free

/-- Appends a frame to the samples that wait. -/
def push (r : Ring) (frame : Frame) : Ring := { r with items := r.items ++ frame.toArray }

/-- Offers frames one after the other; also counts those that did not fit, which are left out. -/
def pushFrames (r : Ring) (frames : List Frame) : Ring × Nat :=
  frames.foldl
    (fun (r, dropped) frame =>
      if r.fits frame then (r.push frame, dropped) else (r, dropped + 1))
    (r, 0)

/-- Takes out all whole frames of a width. -/
def popFrames (r : Ring) (width : Nat) : Ring × List Sample :=
  let whole := r.items.size - r.items.size % width
  ({ r with items := r.items.extract whole r.items.size }, (r.items.extract 0 whole).toList)

end Ring

end Loopback
