import Loopback.Sample

/-! # Frames

    Interleaved audio is a list of samples in which each run of as many samples as there are
    channels is one frame.  `Frame.cut` takes whole frames off the front; what does not fill a frame
    is left out.
-/

namespace Loopback

/-- One sample for each channel, at one instant. -/
abbrev Frame := List Sample

namespace Frame

/-- The number of whole frames of `width` samples; 0 for width 0. -/
def available (width : Nat) (samples : List Sample) : Nat := samples.length / width

/-- Cuts `count` frames and adds them to those already cut, which are held in reverse order. -/
def cutOnto (width : Nat) : Nat → List Sample → List Frame → List Frame
  | 0, _, done => done.reverse
  | count + 1, samples, done =>
    cutOnto width count (samples.drop width) (samples.take width :: done)

/-- The first `count` runs of `width` samples. -/
def cut (width count : Nat) (samples : List Sample) : List Frame :=
  cutOnto width count samples []

/-- A frame cut, or padded with silence, to a number of channels. -/
def fit (width : Nat) (frame : Frame) : Frame :=
  frame.take width ++ List.replicate (width - frame.length) Sample.zero

def silence (count : Nat) : List Sample := List.replicate count Sample.zero

/-! ### Laws of cutting and fitting -/

theorem cutOnto_eq (width count : Nat) (samples : List Sample) (done : List Frame) :
    cutOnto width count samples done = done.reverse ++ cutOnto width count samples [] := by
  induction count generalizing samples done with
  | zero => simp [cutOnto]
  | succ count ih =>
    rw [cutOnto, ih, cutOnto, ih _ [samples.take width]]
    simp

@[simp] theorem cut_zero (width : Nat) (samples : List Sample) : cut width 0 samples = [] := rfl

theorem cut_succ (width count : Nat) (samples : List Sample) :
    cut width (count + 1) samples
      = samples.take width :: cut width count (samples.drop width) := by
  rw [cut, cutOnto, cutOnto_eq]
  rfl

@[simp] theorem length_cut (width count : Nat) (samples : List Sample) :
    (cut width count samples).length = count := by
  induction count generalizing samples with
  | zero => rfl
  | succ count ih => simp [cut_succ, ih]

@[simp] theorem length_fit (width : Nat) (frame : Frame) : (fit width frame).length = width := by
  simp [fit]
  omega

theorem fit_of_length {width : Nat} {frame : Frame} (h : frame.length = width) :
    fit width frame = frame := by
  subst h
  simp [fit]

end Frame

end Loopback
