import Loopback.Decimal.Nearest
import Loopback.Decimal.Shortest
import Loopback.Sample

/-! # Samples as text

    * `Sample.layout` writes the fewest digits that read back, in one of two layouts: `plain` for
      messages and `json` for status objects.
    * `Sample.fixed` writes the exact value rounded to a number of places.
    * `Sample.read?` reads a decimal.
-/

namespace Loopback

open Decimal

namespace Sample

/-- The numbers nearer to a positive finite sample than to any other sample, over a common
    denominator.  Just above a power of two the neighbour below is only half as far away. -/
def interval (s : Sample) : Interval :=
  let m := s.significand
  let factor := 2 ^ (s.scale - 2).toNat
  let tightBelow := s.fractionField = 0 && 1 < s.exponentField
  { low := (4 * m - (if tightBelow then 1 else 2)) * factor
    mid := 4 * m * factor
    high := (4 * m + 2) * factor
    den := 2 ^ (2 - s.scale).toNat
    closed := m % 2 = 0 }

/-- How a number is laid out once its digits are known. -/
structure Layout where
  /-- Which way the digits go when two are equally near. -/
  tie : Tie
  /-- What follows a whole number. -/
  wholeEnd : String
  /-- Exponents of the leading digit that are written without an exponent; `none` for all. -/
  positional : Option (Int × Int)
  /-- The text of a NaN. -/
  nan : String
  /-- The text of an infinity, after its sign. -/
  infinity : String
  /-- Whether NaN and infinities are written without a sign. -/
  bareSpecials : Bool

/-- Numbers in messages: digits only, no exponent, and nothing after a whole number. -/
def Layout.plain : Layout :=
  { tie := .away, wholeEnd := "", positional := none
    nan := "NaN", infinity := "inf", bareSpecials := false }

/-- Numbers in status objects: a whole number ends in `.0`, very large and very small ones carry an
    exponent, and what is no finite number is `null`. -/
def Layout.json : Layout :=
  { tie := .toEven, wholeEnd := ".0", positional := some (-6, 12)
    nan := "null", infinity := "null", bareSpecials := true }

def layout (l : Layout) (s : Sample) : String :=
  let sign := if s.isNegative then "-" else ""
  if s.isNaN then l.nan
  else if !s.isFinite then (if l.bareSpecials then l.infinity else sign ++ l.infinity)
  else if s.magnitudeBits = 0 then sign ++ "0" ++ l.wholeEnd
  else
    let d := s.interval.shortest l.tie
    let e := d.leadingExponent
    match l.positional with
    -- no exponent, however long that gets
    | none => sign ++ d.positional l.wholeEnd
    | some (low, high) =>
      if low ≤ e && e ≤ high then sign ++ d.positional l.wholeEnd else sign ++ d.scientific

/-- Writes the exact value with a fixed number of places; the sign of a negative sample stays even
    where every digit is zero. -/
def fixed (places : Nat) (s : Sample) : String :=
  let sign := if s.isNegative then "-" else ""
  if s.isNaN then "NaN"
  else if !s.isFinite then sign ++ "inf"
  else
    sign ++ Decimal.fixed places (s.significand * 2 ^ s.scale.toNat) (2 ^ (-s.scale).toNat)

def read? (text : String) : Option Sample :=
  (readBits? text).map fun n => ⟨UInt32.ofNat n⟩

end Sample

end Loopback
