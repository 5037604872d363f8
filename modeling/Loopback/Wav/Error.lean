import Loopback.Files

/-! # What can be wrong with a WAV file

    `Wav.HeaderFault` says what is wrong with the form of a header, `Wav.Fault` adds what can happen
    while bytes are read, and `WavError` tells at which stage of reading or writing it happened.
-/

namespace Loopback

namespace Wav

/-- What is wrong with the form of a header. -/
inductive HeaderFault where
  | noRiffTag
  | noWaveTag
  | missingFormat
  | formatTooShort
  | zeroChannels
  | sampleTooNarrow
  | inconsistentRates
  | bitsNotWholeBytes
  | zeroBits
  | unexpectedFormatSize
  | pcmBitsUnexpected
  | unexpectedExtraSize
  | floatBitsUnexpected
  | unexpectedExtensibleSize
  | dataNotWholeSamples
  | dataNotWholeFrames
deriving DecidableEq, Repr, Inhabited

namespace HeaderFault

def reason : HeaderFault → String
  | noRiffTag => "no RIFF tag found"
  | noWaveTag => "no WAVE tag found"
  | missingFormat => "missing fmt chunk"
  | formatTooShort => "invalid fmt chunk size"
  | zeroChannels => "file contains zero channels"
  | sampleTooNarrow => "sample bits exceeds size of sample"
  | inconsistentRates => "inconsistent fmt chunk"
  | bitsNotWholeBytes => "bits per sample is not a multiple of 8"
  | zeroBits => "bits per sample is 0"
  | unexpectedFormatSize => "unexpected fmt chunk size"
  | pcmBitsUnexpected => "bits per sample is not 8 or 16"
  | unexpectedExtraSize => "unexpected WAVEFORMATEX size"
  | floatBitsUnexpected => "bits per sample is not 32"
  | unexpectedExtensibleSize => "unexpected WAVEFORMATEXTENSIBLE size"
  | dataNotWholeSamples => "data chunk length is not a multiple of sample size"
  | dataNotWholeFrames => "invalid data chunk length"

end HeaderFault

/-- What can go wrong with the bytes of a file. -/
inductive Fault where
  /-- The file cannot be used at all. -/
  | file (cause : FileError)
  /-- The bytes end too early. -/
  | outOfBytes
  /-- The header is not well formed. -/
  | illFormed (cause : HeaderFault)
  /-- The header is well formed but names an unknown coding. -/
  | unsupported
  /-- A sample has more bytes than can be read. -/
  | tooWide
deriving DecidableEq, Repr, Inhabited

namespace Fault

def message : Fault → String
  | file cause => cause.message
  | outOfBytes => "Failed to read enough bytes."
  | illFormed cause => "Ill-formed WAVE file: " ++ cause.reason
  | unsupported => "The wave format of the file is not supported."
  | tooWide => "The sample has more bits than the destination type."

end Fault

inductive Coding where
  | integer
  | float
deriving DecidableEq, Repr, Inhabited

/-- A layout of samples that cannot be read or written. -/
inductive Layout where
  /-- Samples of this coding and width. -/
  | samples (coding : Coding) (bits : Nat)
  /-- More channels than a header can name. -/
  | channels (count : Nat)
deriving DecidableEq, Repr, Inhabited

namespace Layout

def text : Layout → String
  | samples .integer bits => s!"Int samples at {bits} bits"
  | samples .float bits => s!"Float samples at {bits} bits"
  | channels count => s!"{count} channels"

end Layout

end Wav

/-- Why a WAV file cannot be read or written. -/
inductive WavError where
  /-- The file or its header cannot be read. -/
  | opening (path : String) (cause : Wav.Fault)
  /-- A sample cannot be read. -/
  | decoding (path : String) (cause : Wav.Fault)
  /-- There is not a single frame. -/
  | empty (path : String)
  /-- The layout of the samples is not supported. -/
  | unsupported (layout : Wav.Layout)
  /-- The file cannot be written. -/
  | writing (path : String) (cause : Wav.Fault)
  /-- The size of the written file cannot be found. -/
  | sizing (path : String) (cause : FileError)
deriving DecidableEq, Repr, Inhabited

namespace WavError

def message : WavError → String
  | opening path cause => s!"failed to open '{path}': {cause.message}"
  | decoding path cause => s!"failed to decode '{path}': {cause.message}"
  | empty path => s!"'{path}' contains no audio frames"
  | unsupported layout => s!"unsupported WAV layout: {layout.text}"
  | writing path cause => s!"failed to write '{path}': {cause.message}"
  | sizing path cause => s!"failed to read size of '{path}': {cause.message}"

/-- The error and its causes, outermost first. -/
def chain (e : WavError) : List String :=
  e.message ::
    match e with
    | opening _ cause | decoding _ cause | writing _ cause => [cause.message]
    | sizing _ cause => [cause.message]
    | empty _ | unsupported _ => []

end WavError

end Loopback
