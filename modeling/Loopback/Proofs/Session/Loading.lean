import Loopback.Proofs.Session.Operations
import Loopback.Proofs.Wav.RoundTrip
import Loopback.Proofs.Wav.Samples

/-! # Loading files

    Reading a file checks more than loading audio does: the result has exactly the samples that its
    counts promise, so every engine accepts it.  Loading a file into a session fails only if the
    file cannot be read.

    * `Audio.Whole` is audio with exactly the promised samples, and `Clip.ofAudio_of_whole` makes it
      a clip.
    * `Wav.Decoded.whole` says that audio read from a file is whole.
    * `Session.loadFile_of_read` and `Session.loadFile_of_error` are the two outcomes of loading a
      file.
-/

namespace Loopback

/-- Audio with exactly the samples that its counts promise, as many as a clip may have. -/
structure Audio.Whole (a : Audio) : Prop where
  frameCount_pos : 0 < a.frameCount
  channels_pos : 0 < a.channels
  size_eq : a.samples.size = a.frameCount * a.channels
  size_lt : a.samples.size < 2 ^ 64

def Audio.Whole.clip {a : Audio} (h : a.Whole) : Clip :=
  { samples := a.samples
    frameCount := a.frameCount
    channels := a.channels
    rate := a.rate
    frameCount_pos := h.frameCount_pos
    channels_pos := h.channels_pos
    size_eq := h.size_eq }

/-- Whole audio becomes a clip without change. -/
theorem Clip.ofAudio_of_whole {a : Audio} (h : a.Whole) : Clip.ofAudio a = .ok h.clip := by
  have hframes : a.frameCount ≠ 0 := Nat.ne_of_gt h.frameCount_pos
  have hchannels : a.channels ≠ 0 := Nat.ne_of_gt h.channels_pos
  have hsome : ¬a.frameCount * a.channels = 0 := Nat.mul_ne_zero hframes hchannels
  have hfits : ¬2 ^ 64 ≤ a.frameCount * a.channels := by
    rw [← h.size_eq]
    exact Nat.not_le_of_lt h.size_lt
  have hall : a.samples.extract 0 (a.frameCount * a.channels) = a.samples := by
    rw [← h.size_eq, Array.extract_size]
  simp only [ofAudio, h.size_eq, hsome, hframes, hchannels, hfits, Nat.lt_irrefl, dite_false,
    if_false, hall]
  rfl

theorem Engine.load_of_whole (e : Engine) {a : Audio} (h : a.Whole) :
    e.load a = .ok { e with
      clip := some h.clip, cursor := 0, monitor := { e.monitor with position := 0 } } := by
  rw [load, Clip.ofAudio_of_whole h]
  rfl

/-- Audio read from a file is whole: its samples take at least a byte each, and their bytes are
    counted in 32 bits. -/
theorem Wav.Decoded.whole {content before rest : Bytes} {length : Nat} {header : Wav.Header}
    {audio : Audio} (h : Wav.Decoded content before length rest header audio) : audio.Whole where
  frameCount_pos := h.frameCount_pos
  channels_pos := h.channels_pos
  size_eq := h.size_eq
  size_lt := by
    have hbytes : header.sampleCount ≤ length := by
      rw [h.sound.length_eq]
      exact Nat.le_mul_of_pos_right _ h.sound.format.width_pos
    have hlength := h.length_lt
    rw [h.size_eq, ← h.sampleCount_eq]
    omega

namespace Session

section

variable {σ : Type} [Link σ] (s : Session σ) {files : FileTree} {path : String}

/-- A file that cannot be read leaves the session unchanged. -/
theorem loadFile_of_error {err : WavError} (h : Wav.read files path = .error err) :
    (s.loadFile files path).session = s
      ∧ (s.loadFile files path).result = .error (.error (.unreadable path err)) := by
  unfold loadFile
  rw [h]
  exact ⟨rfl, rfl⟩

/-- A file that is read becomes the clip. -/
theorem loadFile_of_whole {audio : Audio} (hread : Wav.read files path = .ok audio)
    (hwhole : audio.Whole) :
    (s.loadFile files path).result = .ok
      { source := some path
        frameCount := audio.frameCount
        channels := audio.channels
        rate := audio.rate } := by
  have hload := s.engine.load_of_whole hwhole
  unfold loadFile
  rw [hread]
  rcases s.install_cases audio (some path) with ⟨err, herror, -⟩ | ⟨engine, -, -, hresult⟩
  · rw [hload] at herror
    cases herror
  · exact hresult

end

/-- **Every file that is read is a whole clip, and loads.** Its samples are 32-bit floats or
    integers of 8, 16, 24 or 32 bits.  They are all samples of the data chunk, and make whole frames
    of at least one channel.  Every engine accepts them as its clip.  So loading a file into a
    session fails exactly if the file cannot be read, and then nothing has changed. -/
theorem files_that_are_read_load (files : FileTree) (path : String) :
    (∀ audio, Wav.read files path = .ok audio →
      (∃ content before length rest header,
        files.read path = .ok (content : Bytes).toByteArray
          ∧ content = before ++ Wav.announce (Bytes.ofText "data") length ++ rest
          ∧ Wav.Header.read content = .ok (header, rest)
          ∧ header.format.Known
          ∧ header.samples rest = .ok audio.samples
          ∧ audio.samples.size * header.format.width = length
          ∧ audio.samples.size = length / header.format.width
          ∧ audio.samples.size = audio.frameCount * audio.channels
          ∧ audio.channels = header.format.channels
          ∧ audio.rate = header.format.rate)
        ∧ 1 ≤ audio.channels
        ∧ 1 ≤ audio.frameCount
        ∧ ∀ e : Engine, ∃ clip : Clip,
            e.load audio = .ok { e with
              clip := some clip, cursor := 0, monitor := { e.monitor with position := 0 } }
            ∧ clip.samples = audio.samples
            ∧ clip.frameCount = audio.frameCount
            ∧ clip.channels = audio.channels
            ∧ clip.rate = audio.rate)
      ∧ ∀ {σ : Type} [Link σ] (s : Session σ),
          ((∃ failure, (s.loadFile files path).result = .error failure)
              ↔ ∃ err, Wav.read files path = .error err)
            ∧ ∀ failure, (s.loadFile files path).result = .error failure →
                (s.loadFile files path).session = s := by
  refine ⟨?_, ?_⟩
  · intro audio hread
    obtain ⟨content, hcontent, hdecode⟩ := Wav.exists_content_of_read hread
    obtain ⟨before, length, rest, header, h⟩ := Wav.exists_decoded hdecode
    have hcount : audio.samples.size * header.format.width = length := by
      rw [h.size_eq, ← h.sampleCount_eq, h.sound.length_eq]
    have hquotient : audio.samples.size = length / header.format.width := by
      rw [← hcount, Nat.mul_div_cancel _ h.sound.format.width_pos]
    refine ⟨?_, h.channels_pos, h.frameCount_pos, ?_⟩
    · have hheader : Wav.Header.read content = .ok (header, rest) := by
        rw [h.content_eq]
        exact h.takes.reads rest
      exact ⟨content, before, length, rest, header, hcontent, h.content_eq, hheader, h.known,
        h.samples_eq, hcount, hquotient, h.size_eq, h.channels_eq, h.rate_eq⟩
    · intro e
      exact ⟨h.whole.clip, e.load_of_whole h.whole, rfl, rfl, rfl, rfl⟩
  · intro σ _ s
    cases hread : Wav.read files path with
    | error err =>
      obtain ⟨hsession, hresult⟩ := s.loadFile_of_error hread
      exact ⟨⟨fun _ => ⟨err, rfl⟩, fun _ => ⟨_, hresult⟩⟩, fun _ _ => hsession⟩
    | ok audio =>
      obtain ⟨content, -, hdecode⟩ := Wav.exists_content_of_read hread
      obtain ⟨before, length, rest, header, h⟩ := Wav.exists_decoded hdecode
      have hresult := s.loadFile_of_whole hread h.whole
      have hnever : ∀ failure, (s.loadFile files path).result ≠ .error failure := by
        intro failure hfailure
        rw [hresult] at hfailure
        cases hfailure
      refine ⟨⟨?_, ?_⟩, fun failure hfailure => absurd hfailure (hnever failure)⟩
      · rintro ⟨failure, hfailure⟩
        exact absurd hfailure (hnever failure)
      · rintro ⟨err, herror⟩
        cases herror

/-- A file with two formats.  The first one is of floats and is ignored; in the second one, 24 of
    the 32 bits of a sample are valid. -/
def paddedFile : Bytes :=
  Wav.Header.opening [0, 0, 0, 0]
    ++ Wav.announce (Bytes.ofText "fmt ") 16 ++ [3, 0, 1, 0, 1, 0, 0, 0, 4, 0, 0, 0, 4, 0, 32, 0]
    ++ Wav.announce (Bytes.ofText "fmt ") 40
    ++ [254, 255, 2, 0, 1, 0, 0, 0, 8, 0, 0, 0, 8, 0, 32, 0]
    ++ [22, 0, 24, 0, 3, 0, 0, 0] ++ Wav.integerGuid
    ++ Wav.announce (Bytes.ofText "data") 8 ++ [0, 0, 64, 127, 0, 0, 128, 0]

/-- The byte beside the valid bits is ignored, and the one frame is loaded. -/
theorem files_that_are_read_load_padded :
    ∃ files : FileTree, files.read "a" = .ok paddedFile.toByteArray
      ∧ Wav.read files "a"
        = .ok { samples := #[.half, .negOne], frameCount := 1, channels := 2, rate := 1 }
      ∧ (∀ e : Engine, ∃ e' clip,
          e.load { samples := #[.half, .negOne], frameCount := 1, channels := 2, rate := 1 }
              = .ok e'
            ∧ e'.clip = some clip ∧ clip.samples = #[.half, .negOne])
      ∧ ∀ (s : Session OfflineLink) failure, (s.loadFile files "a").result ≠ .error failure := by
  obtain ⟨files, hfile⟩ := FileTree.exists_read paddedFile.toByteArray
  have hread : Wav.read files "a"
      = .ok { samples := #[.half, .negOne], frameCount := 1, channels := 2, rate := 1 } := by
    rw [Wav.read_of_content hfile]
    decide +kernel
  obtain ⟨hloads, hsessions⟩ := files_that_are_read_load files "a"
  obtain ⟨-, -, -, hengines⟩ := hloads _ hread
  refine ⟨files, hfile, hread, ?_, ?_⟩
  · intro e
    obtain ⟨clip, hload, hsamples, -⟩ := hengines e
    exact ⟨_, clip, hload, rfl, hsamples⟩
  · intro s failure hfailure
    obtain ⟨err, herror⟩ := (hsessions s).1.mp ⟨failure, hfailure⟩
    rw [hread] at herror
    cases herror

end Session

end Loopback
