import Loopback.Proofs.Recording.Regular
import Loopback.Proofs.Wav.RoundTrip

/-! # Files of recordings

    Every recording with up to 65535 channels is written, to a file of the size that is returned.
    The file reads back as the recording if a frame has fewer than 65536 bytes.  Otherwise the block
    alignment does not fit the two bytes it has in the header, and the stored value is too small for
    a sample of 32 bits on each channel, so the file cannot be opened.

    * `check_of_many` is the check that such a header fails.
    * `decode_encode_of_many` transfers the fault to whole files.
    * `content_of_written` gives the content of a written file, `read_of_written` the result of
      reading it.
-/

namespace Loopback.Wav

section

variable {rate channels : Nat}

/-- The bytes of a frame do not fit into the block alignment, and the stored value is too small for
    four bytes on each channel. -/
theorem check_of_many (hmany : 16383 < channels) (hrate : 0 < rate)
    (hlt : 4 * rate * channels < 2 ^ 32) :
    Format.check channels rate (bytesPerSecond rate channels)
      (bytesPerSecond rate channels / rate % 256 ^ 2) 32
        = .error (.illFormed .sampleTooNarrow) := by
  have hchannels : channels ≠ 0 := by omega
  have hrest : 4 * channels % 256 ^ 2 < 4 * channels := by
    have := Nat.mod_lt (4 * channels) (show 0 < 256 ^ 2 by decide)
    omega
  have hwidth : 4 * channels % 256 ^ 2 / channels < 4 := by
    apply Nat.div_lt_of_lt_mul
    show 4 * channels % 256 ^ 2 < channels * 4
    omega
  have hnarrow : 8 * (4 * channels % 256 ^ 2 / channels) < 32 := by omega
  rw [align_eq hrate hlt]
  simp only [Format.check, hchannels, hnarrow, if_false, decide_true, Bool.true_or, if_true]
  rfl

theorem read_formatFields_of_many (hmany : 16383 < channels) (hnamed : channels ≤ 65535)
    (hrate : 0 < rate) (hlt : 4 * rate * channels < 2 ^ 32) (rest : Bytes) :
    Format.read 40 (formatFields rate channels ++ rest)
      = .error (.illFormed .sampleTooNarrow) := by
  have hchannels : channels < 256 ^ 2 := by omega
  have hrate' : rate < 256 ^ 4 := rate_lt (by omega) hlt
  have hsecond : bytesPerSecond rate channels < 256 ^ 4 := Nat.mod_lt _ (by decide)
  have htag : extensibleTag < 256 ^ 2 := by decide
  have hbits : 32 < 256 ^ 2 := by decide
  have hlength : ¬40 < 16 := by decide
  simp only [Format.read, formatFields, List.append_assoc, bind, Except.bind, hlength, if_false,
    Reader.number_ofNumber htag, Reader.number_ofNumber hchannels, Reader.number_ofNumber hrate',
    Reader.number_ofNumber hsecond, Reader.number_ofNumber_mod 2 (bytesPerSecond _ _ / _),
    Reader.number_ofNumber hbits, check_of_many hmany hrate hlt]

/-- A file with this many channels cannot be opened, whatever its content. -/
theorem decode_encode_of_many (path : String) (hmany : 16383 < channels)
    (hnamed : channels ≤ 65535) (hrate : 0 < rate) (hlt : 4 * rate * channels < 2 ^ 32)
    (samples : List Sample) :
    decode path (encode rate channels samples)
      = .error (.opening path (.illFormed .sampleTooNarrow)) := by
  have hread : Header.read (encode rate channels samples)
      = .error (.illFormed .sampleTooNarrow) := by
    rw [encode, header_eq, List.append_assoc, Header.read_opening (Bytes.length_ofNumber ..),
      List.append_assoc, Header.readChunks_announce (by decide) (by decide), List.append_assoc]
    simp only [Header.readAnnounced, ChunkKind.ofTag_format, bind, Except.bind,
      read_formatFields_of_many hmany hnamed hrate hlt]
  rw [decode, hread]

end

/-! ### Files of a file tree -/

/-- A written file contains the encoded recording, and has as many bytes as were returned. -/
theorem content_of_written {files written : FileTree} {path : String} {r : Recording}
    {rate bytes : Nat} (h : write files path r rate = .file written bytes) :
    r.channels ≤ 65535
      ∧ written.read path = .ok (encode rate r.channels r.samples).toByteArray
      ∧ bytes = (encode rate r.channels r.samples).length := by
  unfold write at h
  split at h
  · cases h
  · next hfew =>
    split at h
    · cases h
    · split at h
      · cases h
      · dsimp only at h
        split at h
        · cases h
        · next hwritten =>
          cases h
          refine ⟨by omega, FileTree.read_of_write hwritten, ?_⟩
          rw [List.size_toByteArray]

/-- **A written file has the returned size, and reads back as the recording up to 16383 channels**:
    with the same rate, channels and frames, and the same samples bit for bit.  With more channels
    it is written just the same, and cannot be opened. -/
theorem read_of_written {files written : FileTree} {path : String} {r : Recording}
    {rate bytes : Nat} (hregular : r.Regular) (hkept : 0 < r.written) (hrate : 0 < rate)
    (hsecond : 4 * rate * r.channels < 2 ^ 32)
    (hsize : 60 + 4 * (r.written * r.channels) < 2 ^ 32)
    (hwrite : write files path r rate = .file written bytes) :
    (∃ content, written.read path = .ok content ∧ content.size = bytes)
      ∧ bytes = 68 + 4 * (r.written * r.channels)
      ∧ read written path
        = if r.channels ≤ 16383 then
            .ok
              { samples := r.samples.toArray
                frameCount := r.written
                channels := r.channels
                rate }
          else .error (.opening path (.illFormed .sampleTooNarrow)) := by
  obtain ⟨hnamed, hcontent, hbytes⟩ := content_of_written hwrite
  have hlen := hregular.length_samples
  refine ⟨⟨_, hcontent, ?_⟩, ?_, ?_⟩
  · rw [List.size_toByteArray, hbytes]
  · rw [hbytes, length_encode, hlen]
  · rw [read_of_content hcontent]
    by_cases hfew : r.channels ≤ 16383
    · have hfits : Fits rate r.channels := ⟨hregular.channels_pos, hfew, hrate, hsecond⟩
      rw [if_pos hfew]
      apply decode_encode path hfits hlen hkept
      rw [hlen]
      omega
    · rw [if_neg hfew]
      exact decode_encode_of_many path (by omega) hnamed hrate hsecond r.samples

/-- One frame on a number of channels, of which only the first is not silent. -/
def oneFrame (channels : Nat) : Recording := ((Recording.new channels 1).writeFrame [.one]).1

theorem regular_oneFrame (channels : Nat) : (oneFrame channels).Regular :=
  (Recording.regular_new channels 1).writeFrame [.one]

/-- Two channels are read as they were written. -/
theorem read_of_written_stereo :
    ∃ written, write {} "a" (oneFrame 2) 8000 = .file written 76
      ∧ 0 < (oneFrame 2).written ∧ 0 < 8000 ∧ 4 * 8000 * (oneFrame 2).channels < 2 ^ 32
      ∧ 60 + 4 * ((oneFrame 2).written * (oneFrame 2).channels) < 2 ^ 32
      ∧ read written "a"
        = .ok { samples := #[.one, .zero], frameCount := 1, channels := 2, rate := 8000 } := by
  obtain ⟨begun, hbegun⟩ := FileTree.exists_write ByteArray.empty
  obtain ⟨written, hwritten, -⟩ := write_eq_file hbegun (oneFrame 2)
    (show 8000 ≠ 0 by decide) (show (oneFrame 2).channels ≤ 65535 by decide)
  obtain ⟨-, hbytes, hread⟩ := read_of_written (regular_oneFrame 2) (by decide)
    (show 0 < 8000 by decide) (by decide) (by decide) hwritten
  rw [hbytes] at hwritten
  exact ⟨written, hwritten, by decide, by decide, by decide, by decide, hread⟩

/-- With one channel too many the file is written, but cannot be opened. -/
theorem written_and_unreadable :
    ∃ written, write {} "a" (oneFrame 16384) 1 = .file written 65604
      ∧ read written "a" = .error (.opening "a" (.illFormed .sampleTooNarrow)) := by
  obtain ⟨begun, hbegun⟩ := FileTree.exists_write ByteArray.empty
  have hchannels : (oneFrame 16384).channels = 16384 := rfl
  have hkept : (oneFrame 16384).written = 1 := rfl
  obtain ⟨written, hwritten, hread⟩ := write_eq_file hbegun (oneFrame 16384)
    (show 1 ≠ 0 by decide) (by rw [hchannels]; decide)
  have hbytes : (encode 1 (oneFrame 16384).channels (oneFrame 16384).samples).toByteArray.size
      = 65604 := by
    rw [List.size_toByteArray, length_encode, (regular_oneFrame 16384).length_samples, hkept,
      hchannels]
  refine ⟨written, ?_, ?_⟩
  · rw [hwritten, hbytes]
  · rw [read_of_content hread, hchannels]
    exact decode_encode_of_many "a" (by decide) (by decide) (by decide) (by decide) _

end Loopback.Wav
