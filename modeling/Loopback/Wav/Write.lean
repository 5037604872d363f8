import Loopback.Recording
import Loopback.Wav.Header

/-! # Writing WAV files

    Recordings are written as 32-bit floats after an extensible header of 68 bytes.

    * The block alignment is computed by dividing the bytes per second by the frame rate, so there
      is no header for a rate of zero.
    * The channel mask names the first channels of the standard, of which there are eighteen.
-/

namespace Loopback.Wav

/-- One bit for each channel, up to eighteen. -/
def channelMask (channels : Nat) : Nat := 2 ^ min channels 18 - 1

/-- Bytes per second, modulo 2^32. -/
def bytesPerSecond (rate channels : Nat) : Nat := rate * 4 * channels % 2 ^ 32

/-- The header in front of `dataLength` bytes of float samples; the rate is positive. -/
def header (rate channels dataLength : Nat) : Bytes :=
  Bytes.ofText "RIFF" ++ Bytes.ofNumber 4 (60 + dataLength) ++ Bytes.ofText "WAVE"
    ++ Bytes.ofText "fmt " ++ Bytes.ofNumber 4 40
    ++ Bytes.ofNumber 2 extensibleTag
    ++ Bytes.ofNumber 2 channels
    ++ Bytes.ofNumber 4 rate
    ++ Bytes.ofNumber 4 (bytesPerSecond rate channels)
    ++ Bytes.ofNumber 2 (bytesPerSecond rate channels / rate)
    ++ Bytes.ofNumber 2 32
    ++ Bytes.ofNumber 2 22
    ++ Bytes.ofNumber 2 32
    ++ Bytes.ofNumber 4 (channelMask channels)
    ++ floatGuid
    ++ Bytes.ofText "data" ++ Bytes.ofNumber 4 dataLength

def sampleBytes (samples : List Sample) : Bytes :=
  samples.flatMap fun s => Bytes.ofNumber 4 s.bits.toNat

def encode (rate channels : Nat) (samples : List Sample) : Bytes :=
  header rate channels (4 * samples.length) ++ sampleBytes samples

/-- How writing a recording ends. -/
inductive Written where
  /-- The file has been written, with this many bytes. -/
  | file (files : FileTree) (bytes : Nat)
  /-- Nothing usable was written. -/
  | failed (err : WavError)
  /-- The file was begun, but there is no header for a rate of zero. -/
  | noHeader (files : FileTree)

def write (files : FileTree) (path : String) (r : Recording) (rate : Nat) : Written :=
  if 65535 < r.channels then .failed (.unsupported (.channels r.channels))
  else
    match files.write path ByteArray.empty with
    | .error err => .failed (.writing path (.file err))
    | .ok begun =>
      if rate = 0 then .noHeader begun
      else
        let content := (encode rate r.channels r.samples).toByteArray
        match begun.write path content with
        | .error err => .failed (.writing path (.file err))
        | .ok files => .file files content.size

end Loopback.Wav
