import Loopback.Decimal.Fixed

/-! # The shortest decimal that reads back

    A number that is only known to lie in an interval is written with as few digits as the interval
    allows.  The grids of multiples of `10 ^ p` are tried from coarse to fine; the first grid with a
    point in the interval gives the digits, and of two points the one nearer to the number.
-/

namespace Loopback.Decimal

/-- A positive number with the interval of numbers that may stand for it, over one denominator. -/
structure Interval where
  /-- Numerator of the lower end. -/
  low : Nat
  /-- Numerator of the number itself. -/
  mid : Nat
  /-- Numerator of the upper end. -/
  high : Nat
  /-- The common denominator. -/
  den : Nat
  /-- Whether the ends belong to the interval. -/
  closed : Bool

/-- Digits and the power of ten they are multiplied by: `digits · 10 ^ exponent`. -/
structure Digits where
  digits : Nat
  exponent : Int
deriving DecidableEq, Repr

namespace Interval

/-- The multiple of `10 ^ p` in the interval that is nearest to the number, if there is one. -/
def nearestOnGrid (i : Interval) (tie : Tie) (p : Int) : Option Nat :=
  let factor := 10 ^ (-p).toNat
  let unit := i.den * 10 ^ p.toNat
  let mid := i.mid * factor
  let inside (k : Nat) : Bool :=
    let x := k * unit
    if i.closed then i.low * factor ≤ x && x ≤ i.high * factor
    else i.low * factor < x && x < i.high * factor
  let k := mid / unit
  match inside k, inside (k + 1) with
  | true, true => some (roundDiv tie mid unit)
  | true, false => some k
  | false, true => some (k + 1)
  | false, false => none

/-- The fewest digits that lie in the interval.  The grids run from `10 ^ 39`, above every
    single-precision number, down to `10 ^ -46`, finer than the smallest one. -/
def shortest (i : Interval) (tie : Tie) : Digits :=
  let found := (List.range 86).findSome? fun (step : Nat) =>
    let p : Int := 39 - step
    (i.nearestOnGrid tie p).map fun k => ⟨k, p⟩
  found.getD ⟨0, 0⟩

end Interval

namespace Digits

def text (d : Digits) : String := toString d.digits

/-- The exponent of ten of the leading digit. -/
def leadingExponent (d : Digits) : Int := d.exponent + d.text.length - 1

def zeros (n : Nat) : String := String.ofList (List.replicate n '0')

/-- The number without exponent; a whole number ends with `wholeEnd`. -/
def positional (wholeEnd : String) (d : Digits) : String :=
  let text := d.text
  if 0 ≤ d.exponent then text ++ zeros d.exponent.toNat ++ wholeEnd
  else
    let places := (-d.exponent).toNat
    let whole := text.length - places
    if 0 < whole then (text.take whole).toString ++ "." ++ (text.drop whole).toString
    else "0." ++ zeros (places - text.length) ++ text

/-- The number with one digit before the point and an exponent that always carries its sign. -/
def scientific (d : Digits) : String :=
  let text := d.text
  let rest := (text.drop 1).toString
  let mantissa := (text.take 1).toString ++ (if rest.isEmpty then "" else "." ++ rest)
  let e := d.leadingExponent
  mantissa ++ (if e < 0 then "e-" else "e+") ++ toString e.natAbs

end Digits

end Loopback.Decimal
