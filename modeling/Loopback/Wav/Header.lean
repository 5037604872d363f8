import Loopback.Wav.Bytes

/-! # WAV headers

    A file opens with `RIFF`, a length that is not looked at, and `WAVE`.  Chunks follow, each a tag
    and a length.  The format is the one of the last format chunk before the data chunk, and the
    data chunk ends the header.

    * `Header.read` reads up to the first byte of the samples.
    * A header that is read holds together: its sample width and its count of samples agree with the
      length of the data and with the channels.
-/

namespace Loopback.Wav

structure Format where
  coding : Coding
  channels : Nat
  rate : Nat
  /-- Significant bits of a sample. -/
  bits : Nat
  /-- Bytes that a sample takes in the file. -/
  width : Nat
deriving DecidableEq, Repr, Inhabited

/-- A header: a format, and how many samples follow. -/
structure Header where
  format : Format
  sampleCount : Nat
deriving DecidableEq, Repr, Inhabited

/-! ### Format chunks -/

def integerGuid : Bytes :=
  [0x01, 0x00, 0x00, 0x00, 0x00, 0x00, 0x10, 0x00, 0x80, 0x00, 0x00, 0xaa, 0x00, 0x38, 0x9b, 0x71]

def floatGuid : Bytes :=
  [0x03, 0x00, 0x00, 0x00, 0x00, 0x00, 0x10, 0x00, 0x80, 0x00, 0x00, 0xaa, 0x00, 0x38, 0x9b, 0x71]

def integerTag : Nat := 1

def floatTag : Nat := 3

/-- The tag of extensible formats, which name their coding by an identifier. -/
def extensibleTag : Nat := 0xfffe

namespace Format

def illFormed {α : Type} (fault : HeaderFault) : Except Fault α := .error (.illFormed fault)

/-- Checks what all formats have in common and derives the width of a sample. -/
def check (channels rate bytesPerSecond align bits : Nat) : Except Fault Nat :=
  if channels = 0 then illFormed .zeroChannels
  else
    let width := align / channels
    if 8 * width < bits || 65535 < 8 * width then illFormed .sampleTooNarrow
    else if align * rate ≠ bytesPerSecond then illFormed .inconsistentRates
    else if bits % 8 ≠ 0 then illFormed .bitsNotWholeBytes
    else if bits = 0 then illFormed .zeroBits
    else .ok width

/-- The rest of an integer format chunk. -/
def readInteger (format : Format) (length : Nat) : Reader Format := fun bytes =>
  if length = 16 then .ok (format, bytes)
  else if length = 18 || length = 40 then do
    let (_, bytes) ← Reader.number 2 bytes
    if format.bits ≠ 8 && format.bits ≠ 16 && format.bits ≠ 24 then illFormed .pcmBitsUnexpected
    else if length = 40 then do
      let (_, bytes) ← Reader.take 22 bytes
      .ok (format, bytes)
    else .ok (format, bytes)
  else illFormed .unexpectedFormatSize

/-- The rest of a float format chunk. -/
def readFloat (format : Format) (length : Nat) : Reader Format := fun bytes =>
  let finish (bytes : Bytes) : Except Fault (Format × Bytes) :=
    if format.bits ≠ 32 then illFormed .floatBitsUnexpected
    else .ok ({ format with coding := .float }, bytes)
  if length = 16 then finish bytes
  else if length = 18 then do
    let (extra, bytes) ← Reader.number 2 bytes
    if extra ≠ 0 then illFormed .unexpectedExtraSize else finish bytes
  else illFormed .unexpectedFormatSize

/-- The rest of an extensible format chunk.  If the number of valid bits is positive, it is the one
    that counts. -/
def readExtensible (format : Format) (length : Nat) : Reader Format := fun bytes =>
  if length < 40 then illFormed .unexpectedFormatSize
  else do
    let (extra, bytes) ← Reader.number 2 bytes
    if extra ≠ 22 then illFormed .unexpectedExtensibleSize
    else do
      let (validBits, bytes) ← Reader.number 2 bytes
      let (_, bytes) ← Reader.number 4 bytes
      let (guid, bytes) ← Reader.take 16 bytes
      let bits := if 0 < validBits then validBits else format.bits
      if guid = integerGuid then .ok ({ format with bits }, bytes)
      else if guid = floatGuid then .ok ({ format with bits, coding := .float }, bytes)
      else .error .unsupported

/-- A format chunk of the given length. -/
def read (length : Nat) : Reader Format := fun bytes =>
  if length < 16 then illFormed .formatTooShort
  else do
    let (tag, bytes) ← Reader.number 2 bytes
    let (channels, bytes) ← Reader.number 2 bytes
    let (rate, bytes) ← Reader.number 4 bytes
    let (bytesPerSecond, bytes) ← Reader.number 4 bytes
    let (align, bytes) ← Reader.number 2 bytes
    let (bits, bytes) ← Reader.number 2 bytes
    let width ← check channels rate bytesPerSecond align bits
    let format : Format := { coding := .integer, channels, rate, bits, width }
    if tag = integerTag then format.readInteger length bytes
    else if tag = floatTag then format.readFloat length bytes
    else if tag = extensibleTag then format.readExtensible length bytes
    else .error .unsupported

end Format

/-! ### Chunks -/

inductive ChunkKind where
  | format
  | fact
  | data
  | other
deriving DecidableEq, Repr

def ChunkKind.ofTag (tag : Bytes) : ChunkKind :=
  if tag = Bytes.ofText "fmt " then .format
  else if tag = Bytes.ofText "fact" then .fact
  else if tag = Bytes.ofText "data" then .data
  else .other

namespace Header

/-- The header that a data chunk of the given length completes. -/
def complete (format? : Option Format) (length : Nat) : Except Fault Header :=
  match format? with
  | none => Format.illFormed .missingFormat
  | some format =>
    if length % format.width ≠ 0 then Format.illFormed .dataNotWholeSamples
    else if length / format.width % format.channels ≠ 0 then Format.illFormed .dataNotWholeFrames
    else .ok { format, sampleCount := length / format.width }

/-- Reads chunks up to the data; `format?` is the latest format so far.  The fuel is spent one per
    chunk, and a file has fewer chunks than bytes.  A fact chunk takes four bytes whatever its
    length, and it does not matter if they are missing. -/
def readChunks : Nat → Option Format → Reader Header
  | 0, _, _ => .error .outOfBytes
  | fuel + 1, format?, bytes => do
    let (tag, bytes) ← Reader.take 4 bytes
    let (length, bytes) ← Reader.number 4 bytes
    match ChunkKind.ofTag tag with
    | .format => do
      let (format, bytes) ← Format.read length bytes
      readChunks fuel (some format) bytes
    -- four bytes, whatever the length says
    | .fact => readChunks fuel format? (bytes.drop 4)
    | .data => do
      let header ← complete format? length
      .ok (header, bytes)
    | .other => do
      let (_, bytes) ← Reader.take length bytes
      readChunks fuel format? bytes

/-- Reads a header, and leaves the bytes of the samples. -/
def read : Reader Header := fun bytes => do
  let (riff, bytes) ← Reader.take 4 bytes
  if riff ≠ Bytes.ofText "RIFF" then Format.illFormed .noRiffTag
  else do
    let (_, bytes) ← Reader.number 4 bytes
    let (wave, bytes) ← Reader.take 4 bytes
    if wave ≠ Bytes.ofText "WAVE" then Format.illFormed .noWaveTag
    else readChunks (bytes.length + 1) none bytes

end Header

end Loopback.Wav
