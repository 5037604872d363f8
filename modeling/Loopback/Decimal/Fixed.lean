import Loopback.Sample

/-! # Decimals with a fixed number of places

    A fraction of natural numbers is rounded to a given number of decimal places, a half going to
    the even neighbour, and written with all its places.
-/

namespace Loopback.Decimal

/-- How a value is rounded if both of its neighbours are equally near. -/
inductive Tie where
  | toEven
  /-- The one further from zero. -/
  | away
deriving DecidableEq, Repr

/-- Picks between `k` and `k + 1` for a value halfway between them. -/
def Tie.pick (tie : Tie) (k : Nat) : Nat :=
  match tie with
  | .toEven => if k % 2 = 0 then k else k + 1
  | .away => k + 1

def roundDiv (tie : Tie) (num den : Nat) : Nat :=
  let k := num / den
  let twice := 2 * (num % den)
  if twice < den then k
  else if den < twice then k + 1
  else tie.pick k

/-- Puts zeros in front of a text until it has `width` characters. -/
def padLeft (width : Nat) (text : String) : String :=
  String.ofList (List.replicate (width - text.length) '0') ++ text

/-- Writes `num / den` with exactly `places` decimal places. -/
def fixed (places num den : Nat) : String :=
  let n := roundDiv .toEven (num * 10 ^ places) den
  let whole := toString (n / 10 ^ places)
  if places = 0 then whole
  else whole ++ "." ++ padLeft places (toString (n % 10 ^ places))

end Loopback.Decimal
