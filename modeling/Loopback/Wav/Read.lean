import Loopback.Clip
import Loopback.Sample
import Loopback.Wav.Header

/-! # Reading WAV files

    After the header the samples are read one by one, as many as the header counts; what follows
    them is not looked at.  Integers are scaled so that the lowest one becomes -1; 32-bit floats are
    taken as they are.
-/

namespace Loopback.Wav

/-- The ways a sample can stand in a file. -/
inductive SampleCode where
  /-- One byte, offset by 128. -/
  | offset8
  /-- Whole bytes in two's complement. -/
  | signed (width : Nat)
  /-- The low three bytes of four, in two's complement. -/
  | padded24
  /-- A 32-bit float. -/
  | float32
deriving DecidableEq, Repr

namespace SampleCode

/-- The code of a format's samples.  Not every width and bit count has one. -/
def ofFormat (f : Format) : Except Fault SampleCode :=
  match f.coding, f.width, f.bits with
  | .float, 4, 32 => .ok .float32
  | .integer, 1, 8 => .ok .offset8
  | .integer, 2, 16 => .ok (.signed 2)
  | .integer, 3, 24 => .ok (.signed 3)
  | .integer, 4, 24 => .ok .padded24
  | .integer, 4, 32 => .ok (.signed 4)
  | _, width, _ => .error (if 4 < width then .tooWide else .unsupported)

/-- The integer in the bytes of a sample. -/
def integer (code : SampleCode) (bytes : Bytes) : Int :=
  match code with
  | offset8 => (bytes.toNumber : Int) - 128
  | padded24 => Bytes.toSigned (bytes.take 3)
  | signed _ | float32 => bytes.toSigned

/-- The sample in its bytes; integers are divided by `scale`. -/
def sample (code : SampleCode) (scale : Sample) (bytes : Bytes) : Sample :=
  match code with
  | float32 => ⟨UInt32.ofNat bytes.toNumber⟩
  | offset8 | signed _ | padded24 => Sample.ofInt (code.integer bytes) / scale

end SampleCode

/-- Reads `count` samples of `width` bytes each and appends them to those already read. -/
def readSamples (code : SampleCode) (scale : Sample) (width : Nat) :
    Nat → Bytes → Array Sample → Except Fault (Array Sample)
  | 0, _, done => .ok done
  | count + 1, bytes, done =>
    match Reader.take width bytes with
    | .ok (front, rest) =>
      readSamples code scale width count rest (done.push (code.sample scale front))
    | .error fault => .error fault

/-- The weight of the highest bit of an integer sample. -/
def fullScale (bits : Nat) : Sample := Sample.ofInt (2 ^ (bits - 1))

def Header.samples (h : Header) (bytes : Bytes) : Except Fault (Array Sample) :=
  if h.sampleCount = 0 then .ok #[]
  else do
    let code ← SampleCode.ofFormat h.format
    readSamples code (fullScale h.format.bits) h.format.width h.sampleCount bytes #[]

/-- Whether a format is accepted. -/
def Format.readable (f : Format) : Bool :=
  match f.coding with
  | .float => f.bits = 32
  | .integer => 1 ≤ f.bits && f.bits ≤ 32

/-- Reads the content of a file; the path is named in errors. -/
def decode (path : String) (content : Bytes) : Except WavError Audio :=
  match Header.read content with
  | .error fault => .error (.opening path fault)
  | .ok (header, bytes) =>
    let format := header.format
    if !format.readable then .error (.unsupported (.samples format.coding format.bits))
    else
      match header.samples bytes with
      | .error fault => .error (.decoding path fault)
      | .ok samples =>
        let frameCount := samples.size / format.channels
        if frameCount = 0 then .error (.empty path)
        else
          .ok
            { samples := samples.extract 0 (frameCount * format.channels)
              frameCount
              channels := format.channels
              rate := format.rate }

def read (files : FileTree) (path : String) : Except WavError Audio :=
  match files.read path with
  | .error err => .error (.opening path (.file err))
  | .ok content => decode path content.data.toList

end Loopback.Wav
