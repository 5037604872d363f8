import Loopback.Sample

/-! # Integer PCM

    Devices carry samples in several number formats.  Three of them can be streamed: 32-bit floats
    as they are, and 16-bit integers, signed or offset by 32768, through the conversions below.
-/

namespace Loopback

/-- The number formats a device may name for its samples. -/
inductive SampleFormat where
  | i8 | i16 | i24 | i32 | i64
  | u8 | u16 | u32 | u64
  | f32 | f64
deriving DecidableEq, Repr, Inhabited

namespace SampleFormat

def name : SampleFormat → String
  | i8 => "I8" | i16 => "I16" | i24 => "I24" | i32 => "I32" | i64 => "I64"
  | u8 => "U8" | u16 => "U16" | u32 => "U32" | u64 => "U64"
  | f32 => "F32" | f64 => "F64"

def all : List SampleFormat := [i8, i16, i24, i32, i64, u8, u16, u32, u64, f32, f64]

def ofName? (text : String) : Option SampleFormat := all.find? (·.name == text)

/-- Whether streams can be built in this format. -/
def streamable : SampleFormat → Bool
  | f32 | i16 | u16 => true
  | _ => false

end SampleFormat

namespace Sample

/-- A signed 16-bit sample, scaled so that the lowest one is -1. -/
def ofInt16 (n : Int16) : Sample := ofInt n.toInt / ofInt 32768

/-- An offset 16-bit sample: 32768 is silence. -/
def ofUInt16 (n : UInt16) : Sample := (ofNat n.toNat - ofInt 32768) / ofInt 32768

/-- To signed 16 bits: clamped to the nominal range, scaled by 32767 and cut toward zero. -/
def toInt16 (s : Sample) : Int16 :=
  Int16.ofInt ((s.clamp negOne one * ofInt 32767).truncate (-32768) 32767)

/-- To offset 16 bits: as `toInt16`, with 32768 added before cutting. -/
def toUInt16 (s : Sample) : UInt16 :=
  UInt16.ofNat ((s.clamp negOne one * ofInt 32767 + ofInt 32768).truncate 0 65535).toNat

end Sample

end Loopback
