import Loopback.Proofs.Wav.Chunks
import Loopback.Wav.Read

/-! # The samples of a file

    The header is followed by the samples, as many as it counts, each of the same width.

    * Reading samples depends only on the bytes that they take (`readSamples_take`).  If these are
      there, all samples are read (`size_of_readSamples`), and otherwise none
      (`readSamples_of_short`).
    * `readSamples_flatMap` reads samples that were written one after the other.
    * `decode_eq_ok_iff` characterises files that are read, and `Decoded` is what is known of them.
-/

namespace Loopback.Wav

open Reader

/-! ### Codes -/

/-- Formats in which samples can be read: 32-bit floats, and integers of one to four bytes. -/
def Format.Known (f : Format) : Prop :=
  f.coding = .float ∧ f.bits = 32 ∨ f.coding = .integer ∧ f.bits ∈ [8, 16, 24, 32]

theorem SampleCode.known_of_ofFormat {f : Format} {code : SampleCode}
    (h : SampleCode.ofFormat f = .ok code) : f.Known := by
  unfold Format.Known
  unfold ofFormat at h
  split at h
  case h_1 hcoding _ hbits => exact Or.inl ⟨hcoding, hbits⟩
  case h_7 => cases h
  all_goals
    next hcoding _ hbits => exact Or.inr ⟨hcoding, by simp [hbits]⟩

/-! ### One sample after the other -/

section

variable (code : SampleCode) (scale : Sample) {width : Nat}

/-- Only the bytes that the samples take are read. -/
theorem readSamples_take (count : Nat) (bytes : Bytes) (done : Array Sample) :
    readSamples code scale width count (bytes.take (count * width)) done
      = readSamples code scale width count bytes done := by
  induction count generalizing bytes done with
  | zero => rfl
  | succ count ih =>
    have hfirst : (bytes.take ((count + 1) * width)).take width = bytes.take width := by
      rw [List.take_take, Nat.succ_mul, Nat.min_eq_left (Nat.le_add_left ..)]
    have hothers : (bytes.take ((count + 1) * width)).drop width
        = (bytes.drop width).take (count * width) := by
      rw [List.drop_take, Nat.succ_mul, Nat.add_sub_cancel]
    rw [readSamples, readSamples, take, take, hfirst, hothers]
    by_cases hlength : (bytes.take width).length = width
    · simp only [hlength, if_true, ih]
    · simp only [hlength, if_false]

/-- If there are too few bytes, some sample cannot be read. -/
theorem readSamples_of_short {count : Nat} {bytes : Bytes} (hshort : bytes.length < count * width)
    (done : Array Sample) :
    readSamples code scale width count bytes done = .error .outOfBytes := by
  induction count generalizing bytes done with
  | zero => omega
  | succ count ih =>
    rw [readSamples]
    by_cases hfirst : bytes.length < width
    · rw [take_of_short hfirst]
    · have htake : take width bytes = .ok (bytes.take width, bytes.drop width) := by
        refine take_eq_ok.mpr ⟨?_, (List.take_append_drop ..).symm⟩
        rw [List.length_take]
        omega
      have hothers : (bytes.drop width).length < count * width := by
        rw [Nat.succ_mul] at hshort
        rw [List.length_drop]
        omega
      rw [htake]
      exact ih hothers _

theorem size_of_readSamples {count : Nat} {bytes : Bytes} {done samples : Array Sample}
    (h : readSamples code scale width count bytes done = .ok samples) :
    samples.size = done.size + count := by
  induction count generalizing bytes done with
  | zero =>
    cases h
    rfl
  | succ count ih =>
    rw [readSamples] at h
    split at h
    · rw [ih h, Array.size_push]
      omega
    · cases h

theorem length_flatMap {α : Type} {encode : α → Bytes} {items : List α}
    (hlength : ∀ item ∈ items, (encode item).length = width) :
    (items.flatMap encode).length = items.length * width := by
  induction items with
  | nil => simp
  | cons item items ih =>
    have hfirst := hlength item (List.mem_cons_self ..)
    have hothers := ih fun other hother => hlength other (List.mem_cons_of_mem _ hother)
    rw [List.flatMap_cons, List.length_append, hfirst, hothers, List.length_cons, Nat.succ_mul,
      Nat.add_comm]

/-- Samples are read as they were written, whatever follows the last one. -/
theorem readSamples_flatMap {α : Type} {encode : α → Bytes} {decoded : α → Sample} {items : List α}
    (hlength : ∀ item ∈ items, (encode item).length = width)
    (hsample : ∀ item ∈ items, code.sample scale (encode item) = decoded item)
    (rest : Bytes) (done : Array Sample) :
    readSamples code scale width items.length (items.flatMap encode ++ rest) done
      = .ok (done ++ (items.map decoded).toArray) := by
  induction items generalizing done with
  | nil => simp [readSamples]
  | cons item items ih =>
    have htake := take_append (hlength item (List.mem_cons_self ..))
      (items.flatMap encode ++ rest)
    have hothers := ih (fun other hother => hlength other (List.mem_cons_of_mem _ hother))
      (fun other hother => hsample other (List.mem_cons_of_mem _ hother))
      (done.push (decoded item))
    rw [List.length_cons, readSamples, List.flatMap_cons, List.append_assoc, htake]
    simp only [hsample item (List.mem_cons_self ..), hothers]
    simp

end

/-! ### The samples that a header counts -/

namespace Header

def dataLength (h : Header) : Nat := h.sampleCount * h.format.width

section

variable {h : Header} {bytes : Bytes} {samples : Array Sample}

theorem samples_take (h : Header) (bytes : Bytes) :
    h.samples (bytes.take h.dataLength) = h.samples bytes := by
  unfold samples dataLength
  simp only [readSamples_take]

theorem size_of_samples (hread : h.samples bytes = .ok samples) :
    samples.size = h.sampleCount := by
  unfold Header.samples at hread
  split at hread
  · next hnone =>
    cases hread
    exact hnone.symm
  · obtain ⟨code, -, hsamples⟩ := Except.bind_eq_ok.mp hread
    rw [size_of_readSamples _ _ hsamples]
    exact Nat.zero_add _

/-- Samples that are read have a known format, and need all their bytes. -/
theorem of_samples (hread : h.samples bytes = .ok samples) (hsome : h.sampleCount ≠ 0) :
    h.format.Known
      ∧ ∀ cut : Bytes, cut.length < h.dataLength → h.samples cut = .error .outOfBytes := by
  rw [Header.samples, if_neg hsome] at hread
  obtain ⟨code, hcode, -⟩ := Except.bind_eq_ok.mp hread
  refine ⟨SampleCode.known_of_ofFormat hcode, ?_⟩
  intro cut hshort
  rw [Header.samples, if_neg hsome, hcode]
  exact readSamples_of_short code _ hshort #[]

end

end Header

/-! ### Whole files -/

/-- **Which files are read**: those with a header of an accepted format, the samples that it counts,
    and at least one frame of them. -/
theorem decode_eq_ok_iff {path : String} {content : Bytes} {audio : Audio} :
    decode path content = .ok audio ↔
      ∃ header rest samples, Header.read content = .ok (header, rest)
        ∧ header.format.readable = true
        ∧ header.samples rest = .ok samples
        ∧ 0 < samples.size / header.format.channels
        ∧ audio =
          { samples := samples.extract 0
              (samples.size / header.format.channels * header.format.channels)
            frameCount := samples.size / header.format.channels
            channels := header.format.channels
            rate := header.format.rate } := by
  constructor
  · intro h
    unfold decode at h
    split at h
    · cases h
    · next header rest hheader =>
      dsimp only at h
      split at h
      · cases h
      · next hreadable =>
        split at h
        · cases h
        · next samples hsamples =>
          split at h
          · cases h
          · next hsome =>
            cases h
            refine ⟨header, rest, samples, hheader, ?_, hsamples, Nat.pos_of_ne_zero hsome, rfl⟩
            simpa using hreadable
  · rintro ⟨header, rest, samples, hheader, hreadable, hsamples, hpos, rfl⟩
    unfold decode
    simp only [hheader, hreadable, hsamples, Nat.ne_of_gt hpos, Bool.not_true, Bool.false_eq_true,
      if_false]

/-- The path does not matter to the audio that is read. -/
theorem decode_at {path : String} {content : Bytes} {audio : Audio}
    (h : decode path content = .ok audio) (place : String) : decode place content = .ok audio :=
  decode_eq_ok_iff.mpr (decode_eq_ok_iff.mp h)

/-- A file that is read as audio, with `length` bytes of data that begin after `before`: the audio
    has all samples of the data, which are whole frames, and the counts of the header. -/
structure Decoded (content before : Bytes) (length : Nat) (rest : Bytes) (header : Header)
    (audio : Audio) : Prop where
  content_eq : content = before ++ announce (Bytes.ofText "data") length ++ rest
  length_lt : length < 2 ^ 32
  takes : Header.read.Takes (before ++ announce (Bytes.ofText "data") length) header
  sound : header.Sound length
  readable : header.format.readable = true
  samples_eq : header.samples rest = .ok audio.samples
  channels_eq : audio.channels = header.format.channels
  rate_eq : audio.rate = header.format.rate
  frameCount_pos : 0 < audio.frameCount
  sampleCount_eq : header.sampleCount = audio.frameCount * audio.channels

/-- Every file that is read is of this form. -/
theorem exists_decoded {path : String} {content : Bytes} {audio : Audio}
    (h : decode path content = .ok audio) :
    ∃ before length rest header, Decoded content before length rest header audio := by
  obtain ⟨header, rest, samples, hheader, hreadable, hsamples, hpos, rfl⟩ := decode_eq_ok_iff.mp h
  obtain ⟨before, length, hlength, hsound, hcontent, htakes⟩ := Header.exists_of_read hheader
  have hsize : samples.size = header.sampleCount := Header.size_of_samples hsamples
  -- whole frames are all there is, so none of the samples is left out
  have hwhole : samples.size / header.format.channels * header.format.channels = samples.size := by
    rw [hsize]
    exact Nat.div_mul_cancel hsound.whole
  have hall : samples.extract 0
      (samples.size / header.format.channels * header.format.channels) = samples := by
    rw [hwhole, Array.extract_size]
  refine ⟨before, length, rest, header, hcontent, hlength, htakes, hsound, hreadable, ?_, rfl, rfl,
    hpos, ?_⟩
  · rw [hall]
    exact hsamples
  · rw [hwhole, hsize]

namespace Decoded

variable {content before rest : Bytes} {length : Nat} {header : Header} {audio : Audio}

theorem channels_pos (h : Decoded content before length rest header audio) :
    0 < audio.channels := by
  rw [h.channels_eq]
  exact h.sound.format.channels_pos

theorem sampleCount_ne_zero (h : Decoded content before length rest header audio) :
    header.sampleCount ≠ 0 := by
  rw [h.sampleCount_eq]
  exact Nat.ne_of_gt (Nat.mul_pos h.frameCount_pos h.channels_pos)

theorem size_eq (h : Decoded content before length rest header audio) :
    audio.samples.size = audio.frameCount * audio.channels := by
  rw [Header.size_of_samples h.samples_eq, h.sampleCount_eq]

theorem known (h : Decoded content before length rest header audio) : header.format.Known :=
  (Header.of_samples h.samples_eq h.sampleCount_ne_zero).1

/-- If some of the data after the header is missing, the samples cannot be read. -/
theorem missed (h : Decoded content before length rest header audio) (cut : Bytes)
    (hshort : cut.length < length) : header.samples cut = .error .outOfBytes := by
  apply (Header.of_samples h.samples_eq h.sampleCount_ne_zero).2
  rwa [Header.dataLength, ← h.sound.length_eq]

theorem length_le (h : Decoded content before length rest header audio) :
    length ≤ rest.length := by
  by_contra hfew
  have hmissed := h.missed rest (by omega)
  rw [h.samples_eq] at hmissed
  cases hmissed

end Decoded

end Loopback.Wav
