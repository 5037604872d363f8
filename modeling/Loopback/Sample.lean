/-! # Samples

    One sample of audio is an IEEE 754 single-precision number, kept as its 32 bits.

    * Every pattern travels unchanged through clips, rings, recordings and files, a NaN's payload
      included, because nothing but arithmetic ever looks inside.
    * Arithmetic rounds to nearest, ties to even.  A NaN operand comes out quieted, the first one
      winning; an invalid operation on numbers gives one fixed NaN.
    * Comparisons are those of numbers: a NaN is neither above nor below anything.
-/

-- powers of numbers are Lean's own ones, also beside a library that brings powers of its own
attribute [instance (high), default_instance (high + 1)] instPowNat

namespace Loopback

/-- A single-precision sample, held as its bit pattern. -/
structure Sample where
  /-- Sign, eight exponent bits and twenty-three fraction bits, from the top down. -/
  bits : UInt32
deriving DecidableEq, Inhabited, Repr

namespace Sample

/-! ### Constants -/

def zero : Sample := ⟨0⟩

/-- The top of the nominal range. -/
def one : Sample := ⟨0x3f800000⟩

/-- The bottom of the nominal range. -/
def negOne : Sample := ⟨0xbf800000⟩

def half : Sample := ⟨0x3f000000⟩

/-- The NaN that an invalid operation on numbers produces. -/
def invalid : Sample := ⟨0xffc00000⟩

/-! ### Reading the pattern -/

/-- The pattern without its sign bit; on numbers this orders magnitudes. -/
def magnitudeBits (s : Sample) : UInt32 := s.bits &&& 0x7fffffff

def isNaN (s : Sample) : Bool := 0x7f800000 < s.magnitudeBits

/-- The pattern stands for a number other than the infinities. -/
def isFinite (s : Sample) : Bool := s.magnitudeBits < 0x7f800000

/-- The sign bit, also of a zero or a NaN. -/
def isNegative (s : Sample) : Bool := 0x80000000 ≤ s.bits

def exponentField (s : Sample) : Nat := (s.magnitudeBits >>> 23).toNat

def fractionField (s : Sample) : Nat := (s.bits &&& 0x7fffff).toNat

/-- The integer `m` of the magnitude `m · 2 ^ scale`. -/
def significand (s : Sample) : Nat :=
  if s.exponentField = 0 then s.fractionField else s.fractionField + 2 ^ 23

/-- The exponent of two that `significand` is multiplied by. -/
def scale (s : Sample) : Int := (max s.exponentField 1 : Nat) - 150

/-! ### Arithmetic -/

def abs (s : Sample) : Sample := ⟨s.magnitudeBits⟩

/-- A NaN with its quiet bit set and the rest of its payload kept. -/
def quiet (s : Sample) : Sample := ⟨s.bits ||| 0x00400000⟩

/-- The number that a pattern stands for. -/
def value (s : Sample) : Float32 := Float32.ofBits s.bits

/-- The pattern of a result, an invalid one getting the fixed NaN. -/
def ofValue (x : Float32) : Sample := if x.isNaN then invalid else ⟨x.toBits⟩

/-- Applies an operation on numbers to two patterns; the first NaN operand passes through, quieted.
    -/
def combine (op : Float32 → Float32 → Float32) (a b : Sample) : Sample :=
  if a.isNaN then a.quiet
  else if b.isNaN then b.quiet
  else ofValue (op a.value b.value)

instance : Add Sample := ⟨combine (· + ·)⟩
instance : Sub Sample := ⟨combine (· - ·)⟩
instance : Mul Sample := ⟨combine (· * ·)⟩
instance : Div Sample := ⟨combine (· / ·)⟩

/-- Strictly below, as numbers. -/
def below (a b : Sample) : Bool := a.value < b.value

/-- The nearest sample to an integer of at most 32 bits. -/
def ofInt (n : Int) : Sample :=
  let magnitude := (UInt32.ofNat n.natAbs).toFloat32.toBits
  ⟨if n < 0 then magnitude ||| 0x80000000 else magnitude⟩

/-- The nearest sample to a natural number of at most 32 bits. -/
def ofNat (n : Nat) : Sample := ofInt n

/-- Forces a number into `low .. high`; a NaN stays as it is. -/
def clamp (s low high : Sample) : Sample :=
  let raised := if s.below low then low else s
  if high.below raised then high else raised

/-- The integer part of the magnitude. -/
def magnitudeFloor (s : Sample) : Nat :=
  if 0 ≤ s.scale then s.significand * 2 ^ s.scale.toNat
  else s.significand / 2 ^ (-s.scale).toNat

/-- Cuts off the fraction and forces the result into `low .. high`; a NaN gives 0. -/
def truncate (low high : Int) (s : Sample) : Int :=
  if s.isNaN then 0
  else
    let n : Int := s.magnitudeFloor
    max low (min high (if s.isNegative then -n else n))

end Sample

end Loopback
