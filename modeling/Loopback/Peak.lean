import Loopback.Frame

/-! # Peak meters

    A meter follows the loudest magnitude heard on one channel, decaying with every sample.  Levels
    are published on a board of slots, one for each channel.  Resetting the board hands out a ticket
    for its new slots; publishing with a ticket of an earlier reset changes nothing that can be
    read.
-/

namespace Loopback

/-- The peak of one channel. -/
structure Meter where
  /-- The level held now. -/
  level : Sample
  /-- What the level is multiplied by before each sample. -/
  decay : Sample
deriving DecidableEq, Repr, Inhabited

namespace Meter

def fresh (decay : Sample) : Meter := ⟨Sample.zero, decay⟩

/-- The decay used unless another is asked for: 0.99. -/
def defaultDecay : Sample := ⟨0x3f7d70a4⟩

/-- The level decays, and jumps up to the magnitude of a louder sample. -/
def feed (m : Meter) (s : Sample) : Meter :=
  let decayed := m.level * m.decay
  { m with level := if decayed.below s.abs then s.abs else decayed }

/-- Feeds a frame to a row of meters, channel by channel.  Of two different lengths the shorter one
    counts: the remaining meters keep their levels, the remaining samples are ignored. -/
def feedFrame (meters : List Meter) (frame : Frame) : List Meter :=
  List.zipWith feed meters frame ++ meters.drop frame.length

def feedFrames (meters : List Meter) (frames : List Frame) : List Meter :=
  frames.foldl feedFrame meters

end Meter

namespace Sample

/-- The quietest magnitude that is distinguished from silence: one millionth. -/
def floorLevel : Sample := ⟨0x358637bd⟩

/-- A magnitude in decibels below full scale.  Silence, and what is no number, gives the level of
    the floor. -/
def decibels (level : Sample) : Sample :=
  let magnitude := level.abs
  let audible := if floorLevel.below magnitude then magnitude else floorLevel
  ofInt 20 * ofValue audible.value.log10

end Sample

/-- Published levels. -/
structure PeakBoard where
  /-- How often the board was reset. -/
  generation : Nat := 0
  /-- The level of each channel since the last reset. -/
  levels : List Sample := []
deriving DecidableEq, Repr, Inhabited

/-- The right to publish to the slots of one reset. -/
structure PeakTicket where
  /-- Which reset the slots belong to. -/
  generation : Nat
deriving DecidableEq, Repr, Inhabited

namespace PeakTicket

/-- The ticket of a board before its first reset; it reaches no slot. -/
def empty : PeakTicket := ⟨0⟩

end PeakTicket

namespace PeakBoard

/-- Replaces all slots by silent ones. -/
def reset (b : PeakBoard) (channels : Nat) : PeakBoard × PeakTicket :=
  let generation := b.generation + 1
  ({ generation, levels := List.replicate channels Sample.zero }, ⟨generation⟩)

/-- Overwrites the first levels of a row by those of the meters. -/
def overwrite (levels : List Sample) (meters : List Meter) : List Sample :=
  (meters.take levels.length).map (·.level) ++ levels.drop meters.length

/-- Shows the meters' levels in the slots of the ticket's reset. -/
def publish (b : PeakBoard) (ticket : PeakTicket) (meters : List Meter) : PeakBoard :=
  if ticket.generation = b.generation then { b with levels := overwrite b.levels meters } else b

def liveChannels (b : PeakBoard) : Nat := b.levels.length

def get? (b : PeakBoard) (channel : Nat) : Option Sample := b.levels[channel]?

end PeakBoard

end Loopback
