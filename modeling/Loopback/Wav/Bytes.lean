import Loopback.Sample
import Loopback.Wav.Error

/-! # Numbers in bytes

    Numbers stand in WAV files with their least significant byte first.  `Bytes.toNumber` and
    `Bytes.ofNumber` go both ways; `Reader` steps take bytes off the front of a file and fail where
    there are too few.
-/

namespace Loopback

abbrev Bytes := List UInt8

namespace Bytes

/-- The number in bytes, least significant byte first. -/
def toNumber : Bytes → Nat
  | [] => 0
  | b :: rest => b.toNat + 256 * toNumber rest

/-- The lowest `width` bytes of a number, least significant first. -/
def ofNumber : Nat → Nat → Bytes
  | 0, _ => []
  | width + 1, n => UInt8.ofNat n :: ofNumber width (n / 256)

/-- The number read as a signed one of as many bytes. -/
def toSigned (bytes : Bytes) : Int :=
  Int.bmod bytes.toNumber (256 ^ bytes.length)

def ofText (text : String) : Bytes := text.toList.map fun c => UInt8.ofNat c.toNat

@[simp] theorem length_ofNumber (width n : Nat) : (ofNumber width n).length = width := by
  induction width generalizing n with
  | zero => rfl
  | succ width ih => simp [ofNumber, ih]

theorem toNumber_ofNumber (width n : Nat) : toNumber (ofNumber width n) = n % 256 ^ width := by
  induction width generalizing n with
  | zero => simp [ofNumber, toNumber, Nat.mod_one]
  | succ width ih =>
    rw [ofNumber, toNumber, ih, Nat.pow_succ, Nat.mul_comm (256 ^ width), Nat.mod_mul]
    simp

end Bytes

namespace Wav

/-- A step of reading: takes bytes off the front. -/
abbrev Reader (α : Type) := Bytes → Except Fault (α × Bytes)

namespace Reader

/-- Takes exactly `count` bytes. -/
def take (count : Nat) : Reader Bytes := fun bytes =>
  let front := bytes.take count
  if front.length = count then .ok (front, bytes.drop count) else .error .outOfBytes

/-- Takes a number of `width` bytes. -/
def number (width : Nat) : Reader Nat := fun bytes =>
  match take width bytes with
  | .ok (front, rest) => .ok (front.toNumber, rest)
  | .error fault => .error fault

end Reader

end Wav

end Loopback
