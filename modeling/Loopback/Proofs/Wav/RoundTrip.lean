import Loopback.Proofs.Files
import Loopback.Proofs.Wav.Samples
import Loopback.Wav.Write

/-! # Reading what was written

    A file written from samples reads back as the samples, at the rate and with the channels that it
    was written for.

    * `takes_formatFields` reads the format chunk field by field, and `header_eq` gives the chunks
      of a header.
    * `read_header` reads the header back, `readSamples_sampleBytes` the samples.
    * `decode_encode` is the law for whole files, and `write_eq_file` puts one into a file tree.
-/

namespace Loopback.Wav

/-! ### The format -/

/-- The format of written recordings. -/
def Format.ofFloats (rate channels : Nat) : Format :=
  { coding := .float, channels, rate, bits := 32, width := 4 }

/-- The content of the format chunk that is written. -/
def formatFields (rate channels : Nat) : Bytes :=
  Bytes.ofNumber 2 extensibleTag
    ++ (Bytes.ofNumber 2 channels
    ++ (Bytes.ofNumber 4 rate
    ++ (Bytes.ofNumber 4 (bytesPerSecond rate channels)
    ++ (Bytes.ofNumber 2 (bytesPerSecond rate channels / rate)
    ++ (Bytes.ofNumber 2 32
    ++ (Bytes.ofNumber 2 22
    ++ (Bytes.ofNumber 2 32
    ++ (Bytes.ofNumber 4 (channelMask channels)
    ++ floatGuid))))))))

/-- A format that fits into a header: neither the bytes of a frame nor those of a second are too
    many for their fields. -/
structure Fits (rate channels : Nat) : Prop where
  channels_pos : 0 < channels
  channels_le : channels ≤ 16383
  rate_pos : 0 < rate
  second_lt : 4 * rate * channels < 2 ^ 32

section

variable {rate channels : Nat}

theorem bytesPerSecond_eq (hlt : 4 * rate * channels < 2 ^ 32) :
    bytesPerSecond rate channels = 4 * channels * rate := by
  have heq : rate * 4 * channels = 4 * channels * rate := by
    rw [Nat.mul_assoc, Nat.mul_comm]
  rw [Nat.mul_right_comm] at hlt
  rw [bytesPerSecond, heq, Nat.mod_eq_of_lt hlt]

/-- The block alignment is the number of bytes of a frame, if that fits. -/
theorem align_eq (hrate : 0 < rate) (hlt : 4 * rate * channels < 2 ^ 32) :
    bytesPerSecond rate channels / rate = 4 * channels := by
  rw [bytesPerSecond_eq hlt, Nat.mul_div_cancel _ hrate]

theorem rate_lt (hchannels : 0 < channels) (hlt : 4 * rate * channels < 2 ^ 32) :
    rate < 2 ^ 32 := by
  have hpos : 0 < 4 * channels := Nat.mul_pos (by decide) hchannels
  have hle : rate ≤ rate * (4 * channels) := Nat.le_mul_of_pos_right _ hpos
  rw [Nat.mul_assoc, Nat.mul_left_comm] at hlt
  omega

theorem channelMask_lt (channels : Nat) : channelMask channels < 256 ^ 4 := by
  have hpow : 2 ^ min channels 18 ≤ 2 ^ 18 :=
    Nat.pow_le_pow_right (by decide) (Nat.min_le_right ..)
  have hbound : 2 ^ 18 < 256 ^ 4 := by decide
  unfold channelMask
  omega

theorem Fits.check_eq (h : Fits rate channels) :
    Format.check channels rate (bytesPerSecond rate channels)
      (bytesPerSecond rate channels / rate) 32 = .ok 4 := by
  have hwidth : 4 * channels / channels = 4 := Nat.mul_div_cancel _ h.channels_pos
  have hpos : channels ≠ 0 := Nat.ne_of_gt h.channels_pos
  rw [align_eq h.rate_pos h.second_lt, bytesPerSecond_eq h.second_lt]
  simp [Format.check, hwidth, hpos]

/-- The format chunk is read as the format that was written. -/
theorem Fits.takes_formatFields (h : Fits rate channels) :
    (Format.read 40).Takes (formatFields rate channels) (Format.ofFloats rate channels) := by
  have hchannels : channels < 256 ^ 2 := by
    have := h.channels_le
    omega
  have hrate : rate < 256 ^ 4 := rate_lt h.channels_pos h.second_lt
  have hsecond : bytesPerSecond rate channels < 256 ^ 4 := Nat.mod_lt _ (by decide)
  have halign : bytesPerSecond rate channels / rate < 256 ^ 2 := by
    have := h.channels_le
    rw [align_eq h.rate_pos h.second_lt]
    omega
  have htag : extensibleTag < 256 ^ 2 := by decide
  have hbits : 32 < 256 ^ 2 := by decide
  have hextra : 22 < 256 ^ 2 := by decide
  have hguid : floatGuid.length = 16 := rfl
  have hother : floatGuid ≠ integerGuid := by decide
  have hinteger : extensibleTag ≠ integerTag := by decide
  have hfloat : extensibleTag ≠ floatTag := by decide
  have hread : Format.read 40 (formatFields rate channels ++ [])
      = .ok (Format.ofFloats rate channels, []) := by
    -- the fields that all formats have
    simp only [Format.read, formatFields, List.append_assoc, bind, Except.bind,
      Reader.number_ofNumber htag, Reader.number_ofNumber hchannels, Reader.number_ofNumber hrate,
      Reader.number_ofNumber hsecond, Reader.number_ofNumber halign, Reader.number_ofNumber hbits,
      h.check_eq, hinteger, hfloat]
    -- the fields of an extensible one
    simp only [Format.readExtensible, bind, Except.bind,
      Reader.number_ofNumber hextra, Reader.number_ofNumber hbits,
      Reader.number_ofNumber (channelMask_lt channels), Reader.take_append hguid, hother]
    rfl
  rw [List.append_nil] at hread
  exact ((Format.exact_read 40).takes hread).2

/-! ### The header -/

/-- The header counts the samples that follow, if they are whole frames. -/
theorem complete_ofFloats {count : Nat} (hwhole : channels ∣ count) :
    Header.complete (some (Format.ofFloats rate channels)) (4 * count)
      = .ok { format := Format.ofFloats rate channels, sampleCount := count } := by
  have hcount : 4 * count / 4 = count := Nat.mul_div_cancel_left _ (by decide)
  have hframes : count % channels = 0 := Nat.mod_eq_zero_of_dvd hwhole
  simp [Header.complete, Format.ofFloats, hcount, hframes]

/-- The header has two chunks.  The length of the file may not fit its field, but it is never read.
    -/
theorem header_eq (rate channels length : Nat) :
    header rate channels length
      = Header.opening (Bytes.ofNumber 4 (60 + length))
        ++ (announce (Bytes.ofText "fmt ") 40 ++ (formatFields rate channels
        ++ announce (Bytes.ofText "data") length)) := by
  simp only [header, Header.opening, announce, formatFields, List.append_assoc]

/-- **The header is read back**, and what follows it is left. -/
theorem Fits.read_header (h : Fits rate channels) {count : Nat} (hwhole : channels ∣ count)
    (hlt : 4 * count < 2 ^ 32) (rest : Bytes) :
    Header.read (header rate channels (4 * count) ++ rest)
      = .ok ({ format := Format.ofFloats rate channels, sampleCount := count }, rest) := by
  have hchunks : Header.Chunks none
      (announce (Bytes.ofText "fmt ") 40 ++ (formatFields rate channels
        ++ announce (Bytes.ofText "data") (4 * count)))
      { format := Format.ofFloats rate channels, sampleCount := count } :=
    .format (by decide) h.takes_formatFields (.data hlt (complete_ofFloats hwhole))
  rw [header_eq]
  exact Header.read_eq_ok_iff.mpr ⟨_, _, Bytes.length_ofNumber .., hchunks, rfl⟩

end

/-! ### The samples -/

/-- Samples are read as they were written, bit for bit. -/
theorem readSamples_sampleBytes (scale : Sample) (samples : List Sample) :
    readSamples .float32 scale 4 samples.length (sampleBytes samples) #[]
      = .ok samples.toArray := by
  have hsample : ∀ s ∈ samples,
      SampleCode.sample .float32 scale (Bytes.ofNumber 4 s.bits.toNat) = id s := by
    intro s _
    -- four bytes hold all 32 bits
    have hbits : s.bits.toNat % 256 ^ 4 = s.bits.toNat := Nat.mod_eq_of_lt s.bits.toNat_lt
    simp only [SampleCode.sample, Bytes.toNumber_ofNumber, hbits, UInt32.ofNat_toNat, id]
  have hread :=
    readSamples_flatMap .float32 scale (fun s _ => Bytes.length_ofNumber ..) hsample [] #[]
  rwa [List.append_nil, List.map_id, Array.empty_append] at hread

theorem length_sampleBytes (samples : List Sample) :
    (sampleBytes samples).length = 4 * samples.length := by
  rw [Nat.mul_comm]
  exact length_flatMap fun s _ => Bytes.length_ofNumber ..

/-! ### Whole files -/

theorem length_encode (rate channels : Nat) (samples : List Sample) :
    (encode rate channels samples).length = 68 + 4 * samples.length := by
  have hriff : (Bytes.ofText "RIFF").length = 4 := by decide
  have hwave : (Bytes.ofText "WAVE").length = 4 := by decide
  have hformat : (Bytes.ofText "fmt ").length = 4 := by decide
  have hdata : (Bytes.ofText "data").length = 4 := by decide
  have hguid : floatGuid.length = 16 := rfl
  simp only [encode, header, List.length_append, Bytes.length_ofNumber, length_sampleBytes, hriff,
    hwave, hformat, hdata, hguid]

/-- **What is written is read back**: the samples bit for bit, with the rate and the channels. -/
theorem decode_encode (path : String) {rate channels frames : Nat} (h : Fits rate channels)
    {samples : List Sample} (hlen : samples.length = frames * channels) (hpos : 0 < frames)
    (hlt : 4 * samples.length < 2 ^ 32) :
    decode path (encode rate channels samples)
      = .ok { samples := samples.toArray, frameCount := frames, channels, rate } := by
  have hwhole : channels ∣ samples.length := hlen ▸ Nat.dvd_mul_left ..
  have hcount : samples.length ≠ 0 := by
    rw [hlen]
    exact Nat.ne_of_gt (Nat.mul_pos hpos h.channels_pos)
  have hframes : samples.length / channels = frames := by
    rw [hlen, Nat.mul_div_cancel _ h.channels_pos]
  have hsamples : Header.samples
      { format := Format.ofFloats rate channels, sampleCount := samples.length }
      (sampleBytes samples) = .ok samples.toArray := by
    simp only [Header.samples, hcount, if_false, SampleCode.ofFormat, Format.ofFloats, bind,
      Except.bind, readSamples_sampleBytes]
  have hall : samples.toArray.extract 0 (frames * channels) = samples.toArray := by
    rw [← hlen, ← List.size_toArray, Array.extract_size]
  refine decode_eq_ok_iff.mpr ⟨_, _, _, h.read_header hwhole hlt _, rfl, hsamples, ?_, ?_⟩
  · rw [List.size_toArray, Format.ofFloats, hframes]
    exact hpos
  · simp only [Format.ofFloats, List.size_toArray, hframes, hall]

/-! ### Files of a file tree -/

/-- If a file can be created, a recording can be written to it, and the file then contains the
    encoded recording. -/
theorem write_eq_file {files begun : FileTree} {path : String}
    (hbegun : files.write path ByteArray.empty = .ok begun) (r : Recording) {rate : Nat}
    (hrate : rate ≠ 0) (hchannels : r.channels ≤ 65535) :
    ∃ written, write files path r rate
        = .file written (encode rate r.channels r.samples).toByteArray.size
      ∧ written.read path = .ok (encode rate r.channels r.samples).toByteArray := by
  obtain ⟨written, hwritten⟩ := FileTree.write_of_write hbegun
    (encode rate r.channels r.samples).toByteArray
  refine ⟨written, ?_, FileTree.read_of_write hwritten⟩
  have hfew : ¬65535 < r.channels := by omega
  simp only [write, hfew, hbegun, hrate, hwritten, if_false]

/-- Only a rate of zero leaves a file without a header. -/
theorem rate_of_noHeader {files begun : FileTree} {path : String} {r : Recording} {rate : Nat}
    (h : write files path r rate = .noHeader begun) : rate = 0 := by
  unfold write at h
  split at h
  · cases h
  · split at h
    · cases h
    · split at h
      · assumption
      · dsimp only at h
        split at h
        · cases h
        · cases h

theorem read_of_content {files : FileTree} {path : String} {content : Bytes}
    (h : files.read path = .ok content.toByteArray) : read files path = decode path content := by
  simp only [read, h, List.toList_data_toByteArray]

/-- A file that is read exists, and its content is decoded. -/
theorem exists_content_of_read {files : FileTree} {path : String} {audio : Audio}
    (h : read files path = .ok audio) :
    ∃ content : Bytes, files.read path = .ok content.toByteArray
      ∧ decode path content = .ok audio := by
  unfold read at h
  split at h
  · cases h
  · next content hcontent =>
    have hbytes : content.data.toList.toByteArray = content := by
      apply ByteArray.ext
      apply Array.ext'
      exact List.toList_data_toByteArray
    exact ⟨content.data.toList, by rw [hbytes, hcontent], h⟩

end Loopback.Wav
