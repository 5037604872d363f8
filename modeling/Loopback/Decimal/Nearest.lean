import Loopback.Decimal.Fixed

/-! # Reading decimals

    The grammar is an optional sign, then digits with at most one point among or around them and an
    optional exponent, or one of the words `inf`, `infinity` and `nan` in any case.  The number read
    is the single-precision one nearest to the decimal, ties to even.
-/

namespace Loopback.Decimal

/-- The pattern of the single-precision number nearest to the positive fraction `num / den`. -/
def nearestBits (num den : Nat) : Nat :=
  -- an exponent that leaves 24 or 25 bits of quotient
  let guess : Int := (num.log2 : Int) - den.log2 - 24
  let quotient (e : Int) : Nat × Nat := (num * 2 ^ (-e).toNat, den * 2 ^ e.toNat)
  let tight : Int :=
    let (n, d) := quotient guess
    if 2 ^ 24 ≤ n / d then guess + 1 else guess
  let e := max tight (-149)
  let (n, d) := quotient e
  min 0x7f800000 ((e + 149).toNat * 2 ^ 23 + roundDiv .toEven n d)

/-- A decimal in parts: `digits · 10 ^ exponent`. -/
structure Parts where
  digits : Nat
  exponent : Int

/-- The pattern nearest to a decimal.  Decimals above `10 ^ 60` are infinite and those below `10 ^
    -60` are zero, so no large power is ever formed for them. -/
def Parts.bits (p : Parts) : Nat :=
  if p.digits = 0 then 0
  else
    let top : Int := p.exponent + (toString p.digits).length
    if 60 < top then 0x7f800000
    else if top < -60 then 0
    else nearestBits (p.digits * 10 ^ p.exponent.toNat) (10 ^ (-p.exponent).toNat)

/-- The value of a run of ASCII digits; an empty run is 0. -/
def digitsValue (cs : List Char) : Nat :=
  cs.foldl (fun n c => n * 10 + (c.toNat - '0'.toNat)) 0

/-- Reads a signed run of at least one digit. -/
def exponentValue? (cs : List Char) : Option Int :=
  let (negative, body) := match cs with
    | '-' :: rest => (true, rest)
    | '+' :: rest => (false, rest)
    | _ => (false, cs)
  if body.isEmpty || !body.all Char.isDigit then none
  else some (if negative then -(digitsValue body : Int) else digitsValue body)

def parts? (cs : List Char) : Option Parts :=
  let whole := cs.takeWhile Char.isDigit
  let afterWhole := cs.dropWhile Char.isDigit
  let (fraction, rest) := match afterWhole with
    | '.' :: tail => (tail.takeWhile Char.isDigit, tail.dropWhile Char.isDigit)
    | _ => ([], afterWhole)
  if whole.isEmpty && fraction.isEmpty then none
  else
    let exponent? := match rest with
      | [] => some 0
      | 'e' :: tail => exponentValue? tail
      | 'E' :: tail => exponentValue? tail
      | _ => none
    exponent?.map fun e => ⟨digitsValue (whole ++ fraction), e - fraction.length⟩

def readBits? (text : String) : Option Nat :=
  let (negative, body) := match text.toList with
    | '-' :: rest => (true, rest)
    | '+' :: rest => (false, rest)
    | cs => (false, cs)
  let magnitude? :=
    match (String.ofList (body.map Char.toLower)) with
    | "inf" => some 0x7f800000
    | "infinity" => some 0x7f800000
    | "nan" => some 0x7fc00000
    | _ => (parts? body).map Parts.bits
  magnitude?.map fun m => if negative then m + 0x80000000 else m

end Loopback.Decimal
