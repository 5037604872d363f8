import Loopback.Proofs.Wav.RoundTrip
import Loopback.Proofs.Wav.Samples

/-! # Files of integers

    Integer samples of one to four bytes are read as fractions of their full scale, whatever chunks
    surround the format.

    * `exists_code` reads one value back from its bytes, for each width.
    * `Chunk.Ignored` is a chunk that is skipped, and `Header.Chunks.ignored` puts any number of
      them before others.
    * `PcmFile` is a file with the shortest format chunk, and `PcmFile.bytes` its bytes.  It is
      `Canonical` if its numbers fit their fields.  `takes_fields`, `chunks_eq` and `samples_eq`
      read the parts of such a file.
-/

namespace Loopback

def Sample.powerOfTwo (n : Nat) : Sample := ⟨UInt32.ofNat ((127 + n) * 2 ^ 23)⟩

namespace Wav

/-! ### Values -/

/-- The signed values of a number of bits. -/
def InRange (bits : Nat) (v : Int) : Prop := -2 ^ (bits - 1) ≤ v ∧ v ≤ 2 ^ (bits - 1) - 1

/-- The bytes of a value, the least significant one first: in two's complement, but a single byte
    with 128 added. -/
def integerBytes (bits : Nat) (v : Int) : Bytes :=
  if bits = 8 then Bytes.ofNumber 1 (v + 128).toNat
  else Bytes.ofNumber (bits / 8) (v % 2 ^ bits).toNat

/-- The full scale is exactly a power of two. -/
theorem fullScale_eq {bits : Nat} (h : bits ∈ [8, 16, 24, 32]) :
    fullScale bits = .powerOfTwo (bits - 1) := by
  simp only [List.mem_cons, List.not_mem_nil, or_false] at h
  rcases h with rfl | rfl | rfl | rfl
  all_goals decide

theorem length_integerBytes (bits : Nat) (v : Int) : (integerBytes bits v).length = bits / 8 := by
  unfold integerBytes
  split
  · next hbyte => rw [hbyte, Bytes.length_ofNumber]
  · rw [Bytes.length_ofNumber]

/-- A byte with 128 added is read as its value. -/
theorem integer_offset8 {v : Int} (h : InRange 8 v) :
    SampleCode.offset8.integer (integerBytes 8 v) = v := by
  obtain ⟨hlow, hhigh⟩ := h
  have hnumber : (integerBytes 8 v).toNumber = (v + 128).toNat := by
    rw [integerBytes, if_pos rfl, Bytes.toNumber_ofNumber, Nat.mod_eq_of_lt]
    omega
  rw [SampleCode.integer, hnumber]
  omega

/-- Two's complement is read as its value. -/
theorem toSigned_ofNumber {width : Nat} {v : Int} (hlow : -(256 ^ width : Nat) ≤ 2 * v)
    (hhigh : 2 * v < (256 ^ width : Nat)) :
    (Bytes.ofNumber width (v % (256 ^ width : Nat)).toNat).toSigned = v := by
  have hpos : (0 : Int) < (256 ^ width : Nat) := by
    have hpower : 0 < 256 ^ width := Nat.pow_pos (by decide)
    omega
  have hrest : 0 ≤ v % (256 ^ width : Nat) := Int.emod_nonneg _ (Int.ne_of_gt hpos)
  have hlt : (v % (256 ^ width : Nat)).toNat < 256 ^ width := by
    have hmod := Int.emod_lt_of_pos v hpos
    omega
  rw [Bytes.toSigned, Bytes.toNumber_ofNumber, Bytes.length_ofNumber, Nat.mod_eq_of_lt hlt,
    Int.toNat_of_nonneg hrest, Int.emod_bmod]
  apply Int.bmod_eq_of_le
  · omega
  · omega

/-- Samples in two's complement are fractions of the scale. -/
theorem sample_signed (width : Nat) (scale : Sample) {v : Int}
    (hlow : -(256 ^ width : Nat) ≤ 2 * v) (hhigh : 2 * v < (256 ^ width : Nat)) :
    (SampleCode.signed width).sample scale (Bytes.ofNumber width (v % (256 ^ width : Nat)).toNat)
      = Sample.ofInt v / scale := by
  rw [SampleCode.sample, SampleCode.integer, toSigned_ofNumber hlow hhigh]

/-- There is a code for each width, and it reads values as they were stored. -/
theorem exists_code {bits : Nat} (h : bits ∈ [8, 16, 24, 32]) :
    ∃ code : SampleCode,
      (∀ channels rate,
        SampleCode.ofFormat { coding := .integer, channels, rate, bits, width := bits / 8 }
          = .ok code)
        ∧ ∀ scale v, InRange bits v →
          code.sample scale (integerBytes bits v) = Sample.ofInt v / scale := by
  simp only [List.mem_cons, List.not_mem_nil, or_false] at h
  rcases h with rfl | rfl | rfl | rfl
  · refine ⟨.offset8, fun _ _ => rfl, ?_⟩
    intro scale v hv
    rw [SampleCode.sample, integer_offset8 hv]
  · refine ⟨.signed 2, fun _ _ => rfl, ?_⟩
    rintro scale v ⟨hlow, hhigh⟩
    exact sample_signed 2 scale (by omega) (by omega)
  · refine ⟨.signed 3, fun _ _ => rfl, ?_⟩
    rintro scale v ⟨hlow, hhigh⟩
    exact sample_signed 3 scale (by omega) (by omega)
  · refine ⟨.signed 4, fun _ _ => rfl, ?_⟩
    rintro scale v ⟨hlow, hhigh⟩
    exact sample_signed 4 scale (by omega) (by omega)

/-! ### Skipped chunks -/

/-- A chunk of the length that it announces; the next one follows immediately, whether the length is
    even or odd. -/
structure Chunk where
  tag : Bytes
  content : Bytes

namespace Chunk

def bytes (c : Chunk) : Bytes := announce c.tag c.content.length ++ c.content

/-- The tag has no meaning to the reader. -/
structure Ignored (c : Chunk) : Prop where
  length_tag : c.tag.length = 4
  not_format : c.tag ≠ Bytes.ofText "fmt "
  not_fact : c.tag ≠ Bytes.ofText "fact"
  not_data : c.tag ≠ Bytes.ofText "data"

theorem Ignored.ofTag_eq {c : Chunk} (h : c.Ignored) : ChunkKind.ofTag c.tag = .other := by
  rcases ChunkKind.tag_cases c.tag with hformat | hfact | hdata | hother
  · exact absurd hformat h.not_format
  · exact absurd hfact h.not_fact
  · exact absurd hdata h.not_data
  · exact hother

theorem length_content_le {chunks : List Chunk} {c : Chunk} (h : c ∈ chunks) :
    c.content.length ≤ (chunks.flatMap bytes).length := by
  have hpart : c.bytes.length ≤ (chunks.flatMap bytes).length :=
    (List.sublist_flatten_of_mem (List.mem_map_of_mem h)).length_le
  have hcontent : c.content.length ≤ c.bytes.length := by
    rw [bytes, List.length_append]
    omega
  exact Nat.le_trans hcontent hpart

end Chunk

/-- Ignored chunks may stand before others. -/
theorem Header.Chunks.ignored {format? : Option Format} {chunks : Bytes} {header : Header}
    {skipped : List Chunk} (hskipped : ∀ c ∈ skipped, c.Ignored)
    (hlength : ∀ c ∈ skipped, c.content.length < 256 ^ 4)
    (h : Header.Chunks format? chunks header) :
    Header.Chunks format? (skipped.flatMap Chunk.bytes ++ chunks) header := by
  induction skipped with
  | nil => exact h
  | cons c skipped ih =>
    have hignored : c.Ignored := hskipped c (List.mem_cons_self ..)
    have hothers := ih (fun other hother => hskipped other (List.mem_cons_of_mem _ hother))
      fun other hother => hlength other (List.mem_cons_of_mem _ hother)
    have hbytes : (c :: skipped).flatMap Chunk.bytes ++ chunks
        = announce c.tag c.content.length
          ++ (c.content ++ (skipped.flatMap Chunk.bytes ++ chunks)) := by
      simp only [List.flatMap_cons, Chunk.bytes, List.append_assoc]
    rw [hbytes]
    exact .other hignored.length_tag hignored.ofTag_eq (hlength c (List.mem_cons_self ..)) hothers

/-! ### Files -/

/-- The content of a file of integers. -/
structure PcmFile where
  /-- Bits of a sample. -/
  bits : Nat
  channels : Nat
  rate : Nat
  frameCount : Nat
  /-- The samples, frame after frame. -/
  values : List Int
  /-- Chunks before the format. -/
  before : List Chunk
  /-- Chunks between the format and the data. -/
  between : List Chunk
  /-- Whatever follows the data. -/
  trailing : Bytes

namespace PcmFile

variable (f : PcmFile)

def frameBytes : Nat := f.channels * (f.bits / 8)

def fields : Bytes :=
  Bytes.ofNumber 2 integerTag
    ++ (Bytes.ofNumber 2 f.channels
    ++ (Bytes.ofNumber 4 f.rate
    ++ (Bytes.ofNumber 4 (f.rate * f.frameBytes)
    ++ (Bytes.ofNumber 2 f.frameBytes
    ++ Bytes.ofNumber 2 f.bits))))

def data : Bytes := f.values.flatMap (integerBytes f.bits)

/-- The chunks up to the beginning of the data. -/
def chunks : Bytes :=
  f.before.flatMap Chunk.bytes
    ++ (announce (Bytes.ofText "fmt ") 16 ++ (f.fields
    ++ (f.between.flatMap Chunk.bytes
    ++ announce (Bytes.ofText "data") f.data.length)))

/-- The length of the file after its length field. -/
def length : Nat := 4 + f.chunks.length + f.data.length + f.trailing.length

def bytes : Bytes :=
  Header.opening (Bytes.ofNumber 4 f.length) ++ f.chunks ++ (f.data ++ f.trailing)

def format : Format :=
  { coding := .integer, channels := f.channels, rate := f.rate, bits := f.bits,
    width := f.bits / 8 }

/-- The audio in the file: each value as a fraction of full scale. -/
def audio : Audio :=
  { samples := (f.values.map fun v => Sample.ofInt v / .powerOfTwo (f.bits - 1)).toArray
    frameCount := f.frameCount
    channels := f.channels
    rate := f.rate }

theorem length_data : f.data.length = f.values.length * (f.bits / 8) :=
  length_flatMap fun v _ => length_integerBytes f.bits v

/-- The numbers of a file fit their fields, and the samples are whole frames. -/
structure Canonical : Prop where
  bits_mem : f.bits ∈ [8, 16, 24, 32]
  channels_pos : 0 < f.channels
  frame_lt : f.frameBytes < 2 ^ 16
  second_lt : f.rate * f.frameBytes < 2 ^ 32
  frames_pos : 0 < f.frameCount
  whole : f.values.length = f.frameCount * f.channels
  inRange : ∀ v ∈ f.values, InRange f.bits v
  before_ignored : ∀ c ∈ f.before, c.Ignored
  between_ignored : ∀ c ∈ f.between, c.Ignored
  length_lt : f.length < 2 ^ 32

namespace Canonical

variable {f : PcmFile}

/-- Samples have one to four bytes. -/
theorem width_eq (h : f.Canonical) : f.bits = 8 * (f.bits / 8) ∧ 0 < f.bits ∧ f.bits ≤ 32 := by
  have hbits := h.bits_mem
  simp only [List.mem_cons, List.not_mem_nil, or_false] at hbits
  omega

theorem width_pos (h : f.Canonical) : 0 < f.bits / 8 := by
  have hwidth := h.width_eq
  omega

theorem frameBytes_pos (h : f.Canonical) : 0 < f.frameBytes :=
  Nat.mul_pos h.channels_pos h.width_pos

theorem check_eq (h : f.Canonical) :
    Format.check f.channels f.rate (f.rate * f.frameBytes) f.frameBytes f.bits
      = .ok (f.bits / 8) := by
  have hwidth : f.frameBytes / f.channels = f.bits / 8 := Nat.mul_div_cancel_left _ h.channels_pos
  have hchannels : f.channels ≠ 0 := Nat.ne_of_gt h.channels_pos
  obtain ⟨hbits, hpos, hle⟩ := h.width_eq
  have hroom : ¬(8 * (f.bits / 8) < f.bits ∨ 65535 < 8 * (f.bits / 8)) := by omega
  have hrest : f.bits % 8 = 0 := by omega
  have hsome : f.bits ≠ 0 := by omega
  simp [Format.check, hwidth, hchannels, hroom, hrest, hsome, Nat.mul_comm]

/-- The format chunk is read as the format of the file. -/
theorem takes_fields (h : f.Canonical) : (Format.read 16).Takes f.fields f.format := by
  have htag : integerTag < 256 ^ 2 := by decide
  -- a frame has no fewer bytes than channels, and a second no fewer bytes than frames
  have hchannels : f.channels < 256 ^ 2 := by
    have hle : f.channels ≤ f.frameBytes := Nat.le_mul_of_pos_right _ h.width_pos
    have hlt := h.frame_lt
    omega
  have hrate : f.rate < 256 ^ 4 := by
    have hle : f.rate ≤ f.rate * f.frameBytes := Nat.le_mul_of_pos_right _ h.frameBytes_pos
    have hlt := h.second_lt
    omega
  have hbits : f.bits < 256 ^ 2 := by
    have hwidth := h.width_eq
    omega
  have hsecond : f.rate * f.frameBytes < 256 ^ 4 := h.second_lt
  have hframe : f.frameBytes < 256 ^ 2 := h.frame_lt
  have hread : Format.read 16 (f.fields ++ []) = .ok (f.format, []) := by
    simp only [Format.read, fields, List.append_assoc, bind, Except.bind,
      Reader.number_ofNumber htag, Reader.number_ofNumber hchannels, Reader.number_ofNumber hrate,
      Reader.number_ofNumber hsecond, Reader.number_ofNumber hframe, Reader.number_ofNumber hbits,
      h.check_eq]
    rfl
  rw [List.append_nil] at hread
  exact ((Format.exact_read 16).takes hread).2

/-! ### Reading the parts of a file -/

/-- The header counts the values. -/
theorem complete_eq (h : f.Canonical) :
    Header.complete (some f.format) f.data.length
      = .ok { format := f.format, sampleCount := f.values.length } := by
  have hcount : f.data.length / (f.bits / 8) = f.values.length := by
    rw [length_data, Nat.mul_div_cancel _ h.width_pos]
  have hrest : f.data.length % (f.bits / 8) = 0 := by
    rw [length_data, Nat.mul_mod_left]
  have hframes : f.values.length % f.channels = 0 := by
    rw [h.whole, Nat.mul_mod_left]
  simp [Header.complete, format, hcount, hrest, hframes]

/-- Every part of the file has a length that fits its field. -/
theorem length_parts (h : f.Canonical) :
    (f.before.flatMap Chunk.bytes).length < 256 ^ 4
      ∧ (f.between.flatMap Chunk.bytes).length < 256 ^ 4 ∧ f.data.length < 256 ^ 4 := by
  have hlt := h.length_lt
  rw [length, chunks] at hlt
  simp only [List.length_append] at hlt
  omega

theorem chunks_eq (h : f.Canonical) :
    Header.Chunks none f.chunks { format := f.format, sampleCount := f.values.length } := by
  obtain ⟨hbefore, hbetween, hdata⟩ := h.length_parts
  apply Header.Chunks.ignored h.before_ignored
  · exact fun c hc => Nat.lt_of_le_of_lt (Chunk.length_content_le hc) hbefore
  -- from here on the format is known
  apply Header.Chunks.format (by decide) h.takes_fields
  apply Header.Chunks.ignored h.between_ignored
  · exact fun c hc => Nat.lt_of_le_of_lt (Chunk.length_content_le hc) hbetween
  exact .data hdata h.complete_eq

theorem samples_eq (h : f.Canonical) :
    Header.samples { format := f.format, sampleCount := f.values.length } (f.data ++ f.trailing)
      = .ok f.audio.samples := by
  obtain ⟨code, hcode, hsample⟩ := exists_code h.bits_mem
  have hsome : f.values.length ≠ 0 := by
    rw [h.whole]
    exact Nat.ne_of_gt (Nat.mul_pos h.frames_pos h.channels_pos)
  have hread := readSamples_flatMap code (.powerOfTwo (f.bits - 1))
    (fun v _ => length_integerBytes f.bits v)
    (fun v hv => hsample (.powerOfTwo (f.bits - 1)) v (h.inRange v hv)) f.trailing #[]
  rw [Array.empty_append] at hread
  simp only [Header.samples, hsome, if_false, format, hcode, bind, Except.bind,
    fullScale_eq h.bits_mem]
  exact hread

end Canonical

end PcmFile

/-- **Integers are read as fractions of full scale.** A file of 8, 16, 24 or 32 bits, with any
    skipped chunks around its format, is read.  Each value is converted and divided by the power of
    two that is the absolute value of the lowest one; the frames, the channels and the rate are
    those of the file. -/
theorem integers_are_fractions {f : PcmFile} (h : f.Canonical) {files : FileTree} {path : String}
    (hfile : files.read path = .ok f.bytes.toByteArray) :
    read files path
      = .ok
        { samples := (f.values.map fun v => Sample.ofInt v / .powerOfTwo (f.bits - 1)).toArray
          frameCount := f.frameCount
          channels := f.channels
          rate := f.rate } := by
  have hheader : Header.read f.bytes
      = .ok ({ format := f.format, sampleCount := f.values.length }, f.data ++ f.trailing) :=
    Header.read_eq_ok_iff.mpr ⟨_, _, Bytes.length_ofNumber .., h.chunks_eq, rfl⟩
  have hreadable : f.format.readable = true := by
    obtain ⟨-, hpos, hle⟩ := h.width_eq
    exact Bool.and_eq_true_iff.mpr ⟨decide_eq_true hpos, decide_eq_true hle⟩
  have hsize : f.audio.samples.size = f.frameCount * f.channels := by
    simp only [PcmFile.audio, List.size_toArray, List.length_map, h.whole]
  have hframes : f.audio.samples.size / f.format.channels = f.frameCount := by
    rw [hsize, PcmFile.format, Nat.mul_div_cancel _ h.channels_pos]
  have hall : f.audio.samples.extract 0 (f.frameCount * f.format.channels) = f.audio.samples := by
    rw [PcmFile.format, ← hsize, Array.extract_size]
  rw [read_of_content hfile]
  refine decode_eq_ok_iff.mpr ⟨_, _, _, hheader, hreadable, h.samples_eq, ?_, ?_⟩
  · rw [hframes]
    exact h.frames_pos
  · simp only [hframes, hall]
    rfl

/-- The extreme 24-bit values and those next to zero, with chunks of odd and of zero length. -/
def extremes : PcmFile :=
  { bits := 24
    channels := 2
    rate := 48000
    frameCount := 2
    values := [-8388608, 8388607, 1, -1]
    before := [{ tag := Bytes.ofText "LIST", content := [1, 2, 3] }]
    between := [{ tag := Bytes.ofText "junk", content := [] }]
    trailing := [9] }

/-- The lowest value is -1; the highest one is less than 1 by the smallest fraction. -/
theorem integers_are_fractions_of_extremes :
    ∃ files : FileTree, files.read "a" = .ok extremes.bytes.toByteArray
      ∧ read files "a"
        = .ok
          { samples := #[.negOne, ⟨0x3f7ffffe⟩, ⟨0x34000000⟩, ⟨0xb4000000⟩]
            frameCount := 2
            channels := 2
            rate := 48000 } := by
  have hcanonical : extremes.Canonical :=
    { bits_mem := by decide
      channels_pos := by decide
      frame_lt := by decide
      second_lt := by decide
      frames_pos := by decide
      whole := by decide
      inRange := by unfold InRange; decide
      before_ignored :=
        List.forall_mem_singleton.mpr ⟨by decide, by decide, by decide, by decide⟩
      between_ignored :=
        List.forall_mem_singleton.mpr ⟨by decide, by decide, by decide, by decide⟩
      length_lt := by decide }
  obtain ⟨files, hfile⟩ := FileTree.exists_read extremes.bytes.toByteArray
  have hvalues : (extremes.values.map fun v => Sample.ofInt v / .powerOfTwo (extremes.bits - 1))
      = [.negOne, ⟨0x3f7ffffe⟩, ⟨0x34000000⟩, ⟨0xb4000000⟩] := by
    decide
  refine ⟨files, hfile, ?_⟩
  rw [integers_are_fractions hcanonical hfile, hvalues]
  rfl

end Wav

end Loopback
