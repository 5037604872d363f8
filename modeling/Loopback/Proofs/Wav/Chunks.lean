import Loopback.Proofs.Wav.Reader
import Loopback.Wav.Header
import Mathlib.Data.List.Infix

/-! # The chunks of a header

    Which files have a header can be described without reading them: `RIFF`, a length and `WAVE` are
    followed by chunks, each with a tag and a length, and the last of them is the data chunk.

    * `Chunks` is the grammar of the chunks, with one rule for each kind.
    * What the grammar allows is read (`Chunks.reads`), and any shorter prefix runs out of bytes
      (`Chunks.short`).  Conversely, the grammar allows what is read (`exists_chunks`).
    * `read_eq_ok_iff` states this for whole headers, and `takes_read` says that nothing after them
      is read.
    * A header that is read is sound (`Header.Sound`): its samples have a width, its frames have
      channels, and the samples that it counts are those of the data chunk.
-/

namespace Loopback.Wav

open Reader

/-! ### Formats -/

/-- A format whose samples have bytes and whose frames have samples. -/
structure Format.Sound (f : Format) : Prop where
  channels_pos : 0 < f.channels
  width_pos : 0 < f.width

namespace Format

/-- An accepted layout has channels, and room for the bits of a sample. -/
theorem of_check {channels rate bytesPerSecond align bits width : Nat}
    (h : check channels rate bytesPerSecond align bits = .ok width) : 0 < channels ∧ 0 < width := by
  simp only [check, illFormed, Except.check_eq_ok, Bool.or_eq_true, decide_eq_true_eq, not_or]
    at h
  obtain ⟨hchannels, ⟨hroom, -⟩, -, -, hbits, hwidth⟩ := h
  cases hwidth
  omega

section

variable {format : Format} (length : Nat)

/-- Reading the rest of a format chunk does not change the layout. -/
theorem exact_readInteger (h : format.Sound) : (format.readInteger length).Exact Sound := by
  unfold readInteger
  refine Exact.ite (fun _ => exact_ok h) fun _ => ?_
  refine Exact.ite (fun _ => ?_) fun _ => exact_error _
  refine Exact.bind (exact_number 2) fun _ _ => ?_
  refine Exact.ite (fun _ => exact_error _) fun _ => ?_
  refine Exact.ite (fun _ => ?_) fun _ => exact_ok h
  exact Exact.bind (exact_take 22) fun _ _ => exact_ok h

theorem exact_readFloat (h : format.Sound) : (format.readFloat length).Exact Sound := by
  have hfinish : Exact
      (fun bytes =>
        if format.bits ≠ 32 then illFormed .floatBitsUnexpected
        else .ok ({ format with coding := .float }, bytes)) Sound :=
    Exact.ite (fun _ => exact_error _) fun _ => exact_ok ⟨h.channels_pos, h.width_pos⟩
  unfold readFloat
  refine Exact.ite (fun _ => hfinish) fun _ => ?_
  refine Exact.ite (fun _ => ?_) fun _ => exact_error _
  refine Exact.bind (exact_number 2) fun extra _ => ?_
  exact Exact.ite (fun _ => exact_error _) fun _ => hfinish

theorem exact_readExtensible (h : format.Sound) : (format.readExtensible length).Exact Sound := by
  unfold readExtensible
  refine Exact.ite (fun _ => exact_error _) fun _ => ?_
  refine Exact.bind (exact_number 2) fun extra _ => ?_
  refine Exact.ite (fun _ => exact_error _) fun _ => ?_
  refine Exact.bind (exact_number 2) fun validBits _ => ?_
  refine Exact.bind (exact_number 4) fun _ _ => ?_
  refine Exact.bind (exact_take 16) fun guid _ => ?_
  -- the bits may be others now, but they are no part of the layout
  refine Exact.ite (fun _ => exact_ok ⟨h.channels_pos, h.width_pos⟩) fun _ => ?_
  exact Exact.ite (fun _ => exact_ok ⟨h.channels_pos, h.width_pos⟩) fun _ => exact_error _

theorem exact_read : (read length).Exact Sound := by
  unfold read
  refine Exact.ite (fun _ => exact_error _) fun _ => ?_
  refine Exact.bind (exact_number 2) fun tag _ => ?_
  refine Exact.bind (exact_number 2) fun channels _ => ?_
  refine Exact.bind (exact_number 4) fun rate _ => ?_
  refine Exact.bind (exact_number 4) fun bytesPerSecond _ => ?_
  refine Exact.bind (exact_number 2) fun align _ => ?_
  refine Exact.bind (exact_number 2) fun bits _ => ?_
  refine exact_check fun width hwidth => ?_
  obtain ⟨hchannels, hwidth⟩ := of_check hwidth
  refine Exact.ite (fun _ => exact_readInteger length ⟨hchannels, hwidth⟩) fun _ => ?_
  refine Exact.ite (fun _ => exact_readFloat length ⟨hchannels, hwidth⟩) fun _ => ?_
  refine Exact.ite (fun _ => exact_readExtensible length ⟨hchannels, hwidth⟩) fun _ => ?_
  exact exact_error _

end

end Format

/-! ### The grammar -/

/-- The tag and the length of a chunk. -/
def announce (tag : Bytes) (length : Nat) : Bytes := tag ++ Bytes.ofNumber 4 length

namespace ChunkKind

theorem ofTag_format : ofTag (Bytes.ofText "fmt ") = .format := by decide

theorem ofTag_fact : ofTag (Bytes.ofText "fact") = .fact := by decide

theorem ofTag_data : ofTag (Bytes.ofText "data") = .data := by decide

/-- The kinds of chunks differ in their tags. -/
theorem tag_cases (tag : Bytes) :
    tag = Bytes.ofText "fmt " ∨ tag = Bytes.ofText "fact" ∨ tag = Bytes.ofText "data"
      ∨ ofTag tag = .other := by
  unfold ofTag
  grind

end ChunkKind

namespace Header

/-- A header that fits the data after it: the samples that it counts take all bytes of the data, and
    are whole frames. -/
structure Sound (h : Header) (length : Nat) : Prop where
  format : h.format.Sound
  length_eq : length = h.sampleCount * h.format.width
  whole : h.format.channels ∣ h.sampleCount

/-- The bytes of chunks that make a header, up to the beginning of the data, if `format?` is the
    latest format so far. -/
inductive Chunks : Option Format → Bytes → Header → Prop
  | format {format? : Option Format} {format : Format} {length : Nat} {fields chunks : Bytes}
      {header : Header} (hlength : length < 256 ^ 4)
      (hfields : (Format.read length).Takes fields format)
      (h : Chunks (some format) chunks header) :
      Chunks format? (announce (Bytes.ofText "fmt ") length ++ (fields ++ chunks)) header
  /-- Four bytes, whatever the length is. -/
  | fact {format? : Option Format} {length : Nat} {count chunks : Bytes} {header : Header}
      (hlength : length < 256 ^ 4) (hcount : count.length = 4) (h : Chunks format? chunks header) :
      Chunks format? (announce (Bytes.ofText "fact") length ++ (count ++ chunks)) header
  | other {format? : Option Format} {tag content chunks : Bytes} {header : Header}
      (htag : tag.length = 4) (hother : ChunkKind.ofTag tag = .other)
      (hlength : content.length < 256 ^ 4) (h : Chunks format? chunks header) :
      Chunks format? (announce tag content.length ++ (content ++ chunks)) header
  | data {format : Format} {length : Nat} {header : Header} (hlength : length < 256 ^ 4)
      (hheader : complete (some format) length = .ok header) :
      Chunks (some format) (announce (Bytes.ofText "data") length) header

/-! ### One chunk -/

/-- Reads a chunk after its tag and length, and then the chunks after it. -/
def readAnnounced (fuel : Nat) (format? : Option Format) (tag : Bytes) (length : Nat) :
    Reader Header := fun bytes =>
  match ChunkKind.ofTag tag with
  | .format => do
    let (format, bytes) ← Format.read length bytes
    readChunks fuel (some format) bytes
  | .fact => readChunks fuel format? (bytes.drop 4)
  | .data => do
    let header ← complete format? length
    .ok (header, bytes)
  | .other => do
    let (_, bytes) ← Reader.take length bytes
    readChunks fuel format? bytes

theorem readChunks_succ (fuel : Nat) (format? : Option Format) :
    readChunks (fuel + 1) format?
      = (fun bytes => do
          let (tag, bytes) ← Reader.take 4 bytes
          let (length, bytes) ← Reader.number 4 bytes
          readAnnounced fuel format? tag length bytes) := rfl

section

variable {fuel : Nat} {format? : Option Format} {tag : Bytes} {length : Nat}

theorem readChunks_announce (htag : tag.length = 4) (hlength : length < 256 ^ 4) (bytes : Bytes) :
    readChunks (fuel + 1) format? (announce tag length ++ bytes)
      = readAnnounced fuel format? tag length bytes := by
  rw [readChunks_succ, announce, List.append_assoc]
  simp only [take_append htag, number_ofNumber hlength, bind, Except.bind]

theorem short_announce (htag : tag.length = 4) (hlength : length < 256 ^ 4) {content : Bytes}
    (h : Short (readAnnounced fuel format? tag length) content) :
    Short (readChunks (fuel + 1) format?) (announce tag length ++ content) := by
  rw [readChunks_succ, announce, List.append_assoc]
  exact (takes_take htag).short_bind ((takes_number hlength).short_bind h)

theorem exists_announce {bytes rest : Bytes} {header : Header}
    (h : readChunks (fuel + 1) format? bytes = .ok (header, rest)) :
    ∃ tag length content, tag.length = 4 ∧ length < 256 ^ 4
      ∧ bytes = announce tag length ++ content
      ∧ readAnnounced fuel format? tag length content = .ok (header, rest) := by
  rw [readChunks_succ] at h
  obtain ⟨⟨tag, remaining⟩, htake, hremaining⟩ := Except.bind_eq_ok.mp h
  obtain ⟨⟨length, content⟩, hnumber, hcontent⟩ := Except.bind_eq_ok.mp hremaining
  obtain ⟨htag, rfl⟩ := take_eq_ok.mp htake
  obtain ⟨hlength, rfl⟩ := number_eq_ok.mp hnumber
  exact ⟨tag, length, content, htag, hlength, (List.append_assoc ..).symm, hcontent⟩

end

/-! ### All chunks -/

section

variable {format? : Option Format} {chunks : Bytes} {header : Header}

/-- The chunks have at least one byte, as there is a data chunk. -/
theorem Chunks.length_pos (h : Chunks format? chunks header) : 0 < chunks.length := by
  cases h
  all_goals
    simp only [announce, List.length_append, Bytes.length_ofNumber]
    omega

/-- Chunks that make a header are read, if there is fuel for all of them. -/
theorem Chunks.reads (h : Chunks format? chunks header) {fuel : Nat} (hfuel : chunks.length < fuel)
    (rest : Bytes) : readChunks fuel format? (chunks ++ rest) = .ok (header, rest) := by
  induction h generalizing fuel with
  | format hlength hfields h ih =>
    obtain ⟨fuel, rfl⟩ := Nat.exists_eq_add_one_of_ne_zero (Nat.ne_zero_of_lt hfuel)
    simp only [announce, List.length_append, Bytes.length_ofNumber] at hfuel
    rw [List.append_assoc, readChunks_announce (by decide) hlength]
    simp only [readAnnounced, ChunkKind.ofTag_format, List.append_assoc, hfields.reads, bind,
      Except.bind]
    exact ih (by omega)
  | fact hlength hcount h ih =>
    obtain ⟨fuel, rfl⟩ := Nat.exists_eq_add_one_of_ne_zero (Nat.ne_zero_of_lt hfuel)
    simp only [announce, List.length_append, Bytes.length_ofNumber] at hfuel
    rw [List.append_assoc, readChunks_announce (by decide) hlength]
    simp only [readAnnounced, ChunkKind.ofTag_fact, List.append_assoc, List.drop_left' hcount]
    exact ih (by omega)
  | other htag hother hlength h ih =>
    obtain ⟨fuel, rfl⟩ := Nat.exists_eq_add_one_of_ne_zero (Nat.ne_zero_of_lt hfuel)
    simp only [announce, List.length_append, Bytes.length_ofNumber] at hfuel
    rw [List.append_assoc, readChunks_announce htag hlength]
    simp only [readAnnounced, hother, List.append_assoc, take_append rfl, bind, Except.bind]
    exact ih (by omega)
  | data hlength hheader =>
    obtain ⟨fuel, rfl⟩ := Nat.exists_eq_add_one_of_ne_zero (Nat.ne_zero_of_lt hfuel)
    rw [readChunks_announce (by decide) hlength]
    simp only [readAnnounced, ChunkKind.ofTag_data, hheader, bind, Except.bind]

/-- A proper prefix runs out of bytes, whatever the fuel is: without fuel the fault is the same. -/
theorem Chunks.short (h : Chunks format? chunks header) (fuel : Nat) :
    Short (readChunks fuel format?) chunks := by
  induction h generalizing fuel with
  | format hlength hfields h ih =>
    cases fuel with
    | zero => exact fun _ _ _ => rfl
    | succ fuel =>
      apply short_announce (by decide) hlength
      exact hfields.short_bind (ih fuel)
  | @fact format? length count chunks header hlength hcount h ih =>
    cases fuel with
    | zero => exact fun _ _ _ => rfl
    | succ fuel =>
      apply short_announce (by decide) hlength
      intro cut hpart hshort
      rw [List.length_append] at hshort
      -- missing bytes of the count are ignored, but then nothing follows them
      have hdrop : cut.drop 4 <+: chunks := by
        have hdropped := List.IsPrefix.drop hpart 4
        rwa [List.drop_left' hcount] at hdropped
      have hpos := h.length_pos
      exact ih fuel (cut.drop 4) hdrop (by rw [List.length_drop]; omega)
  | other htag hother hlength h ih =>
    cases fuel with
    | zero => exact fun _ _ _ => rfl
    | succ fuel =>
      apply short_announce htag hlength
      intro cut hpart hshort
      simp only [readAnnounced, hother]
      exact (takes_take rfl).short_bind (ih fuel) cut hpart hshort
  | data hlength hheader =>
    cases fuel with
    | zero => exact fun _ _ _ => rfl
    | succ fuel =>
      rw [← List.append_nil (announce _ _)]
      apply short_announce (by decide) hlength
      exact fun _ _ hshort => absurd hshort (Nat.not_lt_zero _)

/-- Whatever is read as a header consists of such chunks. -/
theorem exists_chunks {fuel : Nat} {bytes rest : Bytes}
    (h : readChunks fuel format? bytes = .ok (header, rest)) :
    ∃ chunks, bytes = chunks ++ rest ∧ Chunks format? chunks header := by
  induction fuel generalizing format? bytes with
  | zero => cases h
  | succ fuel ih =>
    obtain ⟨tag, length, content, htag, hlength, rfl, hcontent⟩ := exists_announce h
    rcases ChunkKind.tag_cases tag with rfl | rfl | rfl | hother
    · obtain ⟨⟨format, remaining⟩, hformat, hrest⟩ := Except.bind_eq_ok.mp hcontent
      obtain ⟨-, fields, rfl, hfields⟩ := Format.exact_read length _ _ _ hformat
      obtain ⟨chunks, rfl, hchunks⟩ := ih hrest
      exact ⟨_, by simp only [List.append_assoc], .format hlength hfields hchunks⟩
    · obtain ⟨chunks, hdrop, hchunks⟩ := ih hcontent
      -- something is left after the count, so its four bytes are there
      have hpos := hchunks.length_pos
      have hcount : (content.take 4).length = 4 := by
        have hlength := congrArg List.length hdrop
        rw [List.length_drop, List.length_append] at hlength
        rw [List.length_take]
        omega
      refine ⟨_, ?_, .fact hlength hcount hchunks⟩
      rw [List.append_assoc, List.append_assoc, ← hdrop, List.take_append_drop]
    · obtain ⟨completed, hheader, hrest⟩ := Except.bind_eq_ok.mp hcontent
      cases hrest
      cases format? with
      | none => cases hheader
      | some format => exact ⟨_, rfl, .data hlength hheader⟩
    · simp only [readAnnounced, hother] at hcontent
      obtain ⟨⟨skipped, remaining⟩, htake, hrest⟩ := Except.bind_eq_ok.mp hcontent
      obtain ⟨rfl, rfl⟩ := take_eq_ok.mp htake
      obtain ⟨chunks, rfl, hchunks⟩ := ih hrest
      exact ⟨_, by simp only [List.append_assoc], .other htag hother hlength hchunks⟩

end

/-! ### Whole headers -/

/-- A completed header fits its data. -/
theorem sound_of_complete {format : Format} {length : Nat} {header : Header} (h : format.Sound)
    (hcomplete : complete (some format) length = .ok header) : header.Sound length := by
  simp only [complete, Format.illFormed, Except.check_eq_ok, ne_eq, Decidable.not_not]
    at hcomplete
  obtain ⟨hsamples, hframes, hheader⟩ := hcomplete
  cases hheader
  exact ⟨h, (Nat.div_mul_cancel (Nat.dvd_of_mod_eq_zero hsamples)).symm,
    Nat.dvd_of_mod_eq_zero hframes⟩

/-- A header fits the data of its last chunk. -/
theorem Chunks.sound {format? : Option Format} {chunks : Bytes} {header : Header}
    (h : Chunks format? chunks header) (hformat : ∀ format, format? = some format → format.Sound) :
    ∃ length, length < 2 ^ 32 ∧ announce (Bytes.ofText "data") length <:+ chunks
      ∧ header.Sound length := by
  induction h with
  | @format format? format size fields chunks header hsize hfields h ih =>
    have hsound : format.Sound := hfields.good (Format.exact_read size)
    obtain ⟨length, hlength, hlast, hheader⟩ := ih fun other hother => by
      cases hother
      exact hsound
    refine ⟨length, hlength, ?_, hheader⟩
    exact (hlast.trans (List.suffix_append ..)).trans (List.suffix_append ..)
  | fact hsize hcount h ih =>
    obtain ⟨length, hlength, hlast, hheader⟩ := ih hformat
    refine ⟨length, hlength, ?_, hheader⟩
    exact (hlast.trans (List.suffix_append ..)).trans (List.suffix_append ..)
  | other htag hother hsize h ih =>
    obtain ⟨length, hlength, hlast, hheader⟩ := ih hformat
    refine ⟨length, hlength, ?_, hheader⟩
    exact (hlast.trans (List.suffix_append ..)).trans (List.suffix_append ..)
  | data hlength hheader =>
    exact ⟨_, hlength, List.suffix_refl _, sound_of_complete (hformat _ rfl) hheader⟩

/-- The bytes before the chunks.  The length of the file is not checked. -/
def opening (size : Bytes) : Bytes := Bytes.ofText "RIFF" ++ (size ++ Bytes.ofText "WAVE")

/-- The opening is followed by chunks, and there is fuel for all of them. -/
theorem read_opening {size : Bytes} (hsize : size.length = 4) (bytes : Bytes) :
    read (opening size ++ bytes) = readChunks (bytes.length + 1) none bytes := by
  have hriff : (Bytes.ofText "RIFF").length = 4 := by decide
  have hwave : (Bytes.ofText "WAVE").length = 4 := by decide
  have hnumber := number_ofNumber_mod 4 size.toNumber (Bytes.ofText "WAVE" ++ bytes)
  rw [← hsize, Bytes.ofNumber_toNumber, hsize] at hnumber
  simp only [read, opening, List.append_assoc, bind, Except.bind, take_append hriff, hnumber,
    take_append hwave, ne_eq, not_true_eq_false, if_false]

/-- A file's header is read exactly, whatever its length field says. -/
theorem takes_read {size chunks : Bytes} {header : Header} (hsize : size.length = 4)
    (h : Chunks none chunks header) : read.Takes (opening size ++ chunks) header := by
  have hriff : (Reader.take 4).Takes (Bytes.ofText "RIFF") _ := takes_take (by decide)
  have hwave : (Reader.take 4).Takes (Bytes.ofText "WAVE") _ := takes_take (by decide)
  have hnumber : (Reader.number 4).Takes size size.toNumber := by
    have htakes := takes_number size.toNumber_lt
    rwa [Bytes.ofNumber_toNumber, hsize] at htakes
  -- the fuel comes from the bytes that are there, so this reader is not one for a fixed fuel
  have hchunks : Reader.Takes (fun bytes => readChunks (bytes.length + 1) none bytes) chunks
      header := by
    constructor
    · intro rest
      apply h.reads
      rw [List.length_append]
      omega
    · intro cut hpart hshort
      exact h.short _ cut hpart hshort
  have hbytes : opening size ++ chunks
      = Bytes.ofText "RIFF" ++ (size ++ (Bytes.ofText "WAVE" ++ chunks)) := by
    simp only [opening, List.append_assoc]
  rw [hbytes]
  exact hriff.bind (hnumber.bind (hwave.bind hchunks))

/-- The headers that are read are an opening followed by chunks. -/
theorem read_eq_ok_iff {bytes rest : Bytes} {header : Header} :
    read bytes = .ok (header, rest) ↔
      ∃ size chunks, size.length = 4 ∧ Chunks none chunks header
        ∧ bytes = opening size ++ chunks ++ rest := by
  constructor
  · intro h
    obtain ⟨⟨riff, remaining⟩, hriff, hremaining⟩ := Except.bind_eq_ok.mp h
    simp only [Format.illFormed, Except.check_eq_ok, ne_eq, Decidable.not_not] at hremaining
    obtain ⟨rfl, hremaining⟩ := hremaining
    obtain ⟨⟨length, content⟩, hnumber, hcontent⟩ := Except.bind_eq_ok.mp hremaining
    obtain ⟨⟨wave, last⟩, hwave, hlast⟩ := Except.bind_eq_ok.mp hcontent
    simp only [Except.check_eq_ok, Decidable.not_not] at hlast
    obtain ⟨rfl, hread⟩ := hlast
    obtain ⟨-, rfl⟩ := take_eq_ok.mp hriff
    obtain ⟨-, rfl⟩ := number_eq_ok.mp hnumber
    obtain ⟨-, rfl⟩ := take_eq_ok.mp hwave
    obtain ⟨chunks, rfl, hchunks⟩ := exists_chunks hread
    refine ⟨Bytes.ofNumber 4 length, chunks, Bytes.length_ofNumber .., hchunks, ?_⟩
    simp only [opening, List.append_assoc]
  · rintro ⟨size, chunks, hsize, hchunks, rfl⟩
    exact (takes_read hsize hchunks).reads rest

/-- In a file with a header, the bytes of the header end with the beginning of a data chunk that the
    header fits. -/
theorem exists_of_read {bytes rest : Bytes} {header : Header}
    (h : read bytes = .ok (header, rest)) :
    ∃ before length, length < 2 ^ 32 ∧ header.Sound length
      ∧ bytes = before ++ announce (Bytes.ofText "data") length ++ rest
      ∧ read.Takes (before ++ announce (Bytes.ofText "data") length) header := by
  obtain ⟨size, chunks, hsize, hchunks, rfl⟩ := read_eq_ok_iff.mp h
  obtain ⟨length, hlength, hlast, hsound⟩ := hchunks.sound fun format hformat => nomatch hformat
  obtain ⟨before, hbefore⟩ := hlast.trans (List.suffix_append (opening size) chunks)
  refine ⟨before, length, hlength, hsound, ?_, ?_⟩
  · rw [hbefore]
  · rw [hbefore]
    exact takes_read hsize hchunks

end Header

end Loopback.Wav
