import Loopback.Proofs.Wav.RoundTrip
import Loopback.Proofs.Wav.Samples

/-! # Files that end too early, and files that go on

    What is read depends only on the bytes up to the end of the data chunk.  Bytes after it are
    ignored, and if a byte before its end is missing, nothing is read.

    * `decode_of_data` compares two files with one header, `decode_of_missing` is about a file with
      missing data, `decode_of_cut_header` about one that ends before its data.
-/

namespace Loopback.Wav

section

variable {path : String} {front : Bytes} {header : Header}

/-- Files with the same header and the same data are read alike. -/
theorem decode_of_data (h : Header.read.Takes front header) {rest other : Bytes}
    (hdata : other.take header.dataLength = rest.take header.dataLength) :
    decode path (front ++ other) = decode path (front ++ rest) := by
  have hsamples : header.samples other = header.samples rest := by
    rw [← header.samples_take other, hdata, header.samples_take]
  unfold decode
  rw [h.reads, h.reads]
  simp only [hsamples]

/-- A file with an incomplete header cannot be opened. -/
theorem decode_of_cut_header (h : Header.read.Takes front header) {cut : Bytes}
    (hpart : cut <+: front) (hshort : cut.length < front.length) :
    decode path cut = .error (.opening path .outOfBytes) := by
  unfold decode
  rw [h.short cut hpart hshort]

/-- A file with incomplete data can be opened, but not decoded. -/
theorem decode_of_missing (h : Header.read.Takes front header)
    (hreadable : header.format.readable = true) {rest : Bytes}
    (hmissed : header.samples rest = .error .outOfBytes) :
    decode path (front ++ rest) = .error (.decoding path .outOfBytes) := by
  unfold decode
  rw [h.reads]
  simp only [hreadable, hmissed, Bool.not_true, Bool.false_eq_true, if_false]

/-- Bytes that agree up to some place after a common front have the front, and agree after it. -/
theorem exists_of_take_append {rest other : Bytes} {count : Nat}
    (h : other.take (front.length + count) = (front ++ rest).take (front.length + count)) :
    ∃ tail, other = front ++ tail ∧ tail.take count = rest.take count := by
  rw [List.take_length_add_append] at h
  have hfront : front <+: other.take (front.length + count) := by
    rw [h]
    exact List.prefix_append ..
  obtain ⟨tail, rfl⟩ := hfront.trans (List.take_prefix ..)
  rw [List.take_length_add_append] at h
  exact ⟨tail, rfl, List.append_cancel_left h⟩

end

/-- **A file that is cut short is never read, and bytes after the data are ignored.** If a file is
    read, its data has a beginning and an end.  Every file with the same bytes up to that end is
    read as the same audio.  If only some of these bytes are there, the file cannot be opened, or it
    cannot be decoded if its header is complete. -/
theorem cut_files_are_refused {files : FileTree} {path : String} {content : Bytes} {audio : Audio}
    (hfile : files.read path = .ok content.toByteArray) (hread : read files path = .ok audio) :
    ∃ before length rest header,
      content = before ++ announce (Bytes.ofText "data") length ++ rest
        ∧ Header.read content = .ok (header, rest)
        ∧ length = header.sampleCount * header.format.width
        ∧ let start := before.length + 8
          let stop := start + length
          stop ≤ content.length
          ∧ (∀ (others : FileTree) (place : String) (other : Bytes),
              others.read place = .ok other.toByteArray → other.take stop = content.take stop →
              read others place = .ok audio)
          ∧ ∀ (others : FileTree) (place : String) (cut : Bytes),
              others.read place = .ok cut.toByteArray → cut <+: content → cut.length < stop →
              read others place
                = .error
                  (if cut.length < start then .opening place .outOfBytes
                    else .decoding place .outOfBytes) := by
  rw [read_of_content hfile] at hread
  obtain ⟨before, length, rest, header, h⟩ := exists_decoded hread
  obtain rfl := h.content_eq
  have hstart : (before ++ announce (Bytes.ofText "data") length).length = before.length + 8 := by
    have htag : (Bytes.ofText "data").length = 4 := by decide
    simp only [announce, List.length_append, Bytes.length_ofNumber, htag]
  refine ⟨before, length, rest, header, rfl, h.takes.reads rest, h.sound.length_eq, ?_, ?_, ?_⟩
  · have hall := h.length_le
    rw [List.length_append, hstart]
    omega
  · intro others place other hother hsame
    rw [← hstart] at hsame
    obtain ⟨tail, rfl, hdata⟩ := exists_of_take_append hsame
    rw [h.sound.length_eq] at hdata
    rw [read_of_content hother, decode_of_data h.takes hdata]
    exact decode_at hread place
  · intro others place cut hcut hpart hshort
    rw [read_of_content hcut, ← hstart]
    rcases Bytes.part_cases hpart with ⟨hfront, hfew⟩ | ⟨left, rfl, -⟩
    · rw [if_pos hfew]
      exact decode_of_cut_header h.takes hfront hfew
    · rw [List.length_append, hstart] at hshort
      rw [if_neg (by rw [List.length_append]; omega)]
      apply decode_of_missing h.takes h.readable
      apply h.missed
      omega

/-- A file of two frames, with a fact chunk that is said to be longer than it is, and a byte after
    the data. -/
def oddFile : Bytes :=
  Header.opening [0, 0, 0, 0]
    ++ announce (Bytes.ofText "fmt ") 16 ++ [1, 0, 1, 0, 1, 0, 0, 0, 1, 0, 0, 0, 1, 0, 8, 0]
    ++ announce (Bytes.ofText "fact") 9 ++ [2, 0, 0, 0]
    ++ announce (Bytes.ofText "data") 2 ++ [255, 0] ++ [7]

def oddAudio : Audio :=
  { samples := #[⟨0x3f7e0000⟩, .negOne], frameCount := 2, channels := 1, rate := 1 }

/-- The byte after the data may be missing.  Without the last sample the file cannot be decoded, and
    if it ends in the fact chunk it cannot be opened. -/
theorem cut_files_are_refused_of_odd_file :
    ∃ files : FileTree, files.read "a" = .ok oddFile.toByteArray ∧ read files "a" = .ok oddAudio
      ∧ (∀ (others : FileTree) (place : String),
          others.read place = .ok (oddFile.take 58).toByteArray → read others place = .ok oddAudio)
      ∧ (∀ (others : FileTree) (place : String),
          others.read place = .ok (oddFile.take 57).toByteArray →
          read others place = .error (.decoding place .outOfBytes))
      ∧ ∀ (others : FileTree) (place : String),
          others.read place = .ok (oddFile.take 46).toByteArray →
          read others place = .error (.opening place .outOfBytes) := by
  obtain ⟨files, hfile⟩ := FileTree.exists_read oddFile.toByteArray
  have hread : read files "a" = .ok oddAudio := by
    rw [read_of_content hfile]
    decide +kernel
  have hheader : Header.read oddFile
      = .ok ({ format := { coding := .integer, channels := 1, rate := 1, bits := 8, width := 1 },
               sampleCount := 2 }, [255, 0, 7]) := by
    decide +kernel
  obtain ⟨before, length, rest, header, hcontent, hfront, hlength, -, hsame, hcut⟩ :=
    cut_files_are_refused hfile hread
  rw [hheader] at hfront
  cases hfront
  have htotal : oddFile.length = 59 := by decide
  have hbefore : before.length = 48 := by
    have htag : (Bytes.ofText "data").length = 4 := by decide
    rw [hcontent] at htotal
    simp only [announce, List.length_append, Bytes.length_ofNumber, htag, List.length_cons,
      List.length_nil] at htotal
    omega
  subst hlength
  rw [hbefore] at hsame hcut
  have hpart : ∀ count, oddFile.take count <+: oddFile := fun count => List.take_prefix ..
  refine ⟨files, hfile, hread, ?_, ?_, ?_⟩
  · intro others place hother
    exact hsame others place _ hother (List.take_take ..)
  · intro others place hother
    exact hcut others place _ hother (hpart 57) (by decide)
  · intro others place hother
    exact hcut others place _ hother (hpart 46) (by decide)

end Loopback.Wav
