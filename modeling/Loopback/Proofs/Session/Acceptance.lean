import Loopback.Proofs.Clip.Acceptance
import Loopback.Proofs.Session.Loading

/-! # A load is all or nothing

    Audio is loaded into an engine directly, or into a session from memory or from a file.  In any
    state, running or not, it becomes the clip as a whole and rewinds the playback, or it is refused
    and nothing has changed.

    * `Engine.load_of_fault` and `Engine.load_of_clip` are the two outcomes for an engine.
    * `Session.Loads` are the ways to load audio into a session, and `Loads.refused` and
      `Loads.accepted` are their outcomes.
    * `Audio.AllOrNothing` is the law, with one field for each part.
-/

namespace Loopback

variable {a : Audio}

namespace Engine

/-- An engine refuses audio that fails a test, and stays the same. -/
theorem load_of_fault (e : Engine) {err : LoadError} (h : a.fault? = some err) :
    e.load a = .error err ∧ e.perform (.load a) = e := by
  have herror := Clip.ofAudio_of_fault h
  rcases e.perform_load a with ⟨clip, hok, -⟩ | ⟨-, -, hsame⟩
  · rw [herror] at hok
    cases hok
  · refine ⟨?_, hsame⟩
    rw [load, herror]
    rfl

/-- An engine makes audio its clip and rewinds; nothing else changes. -/
theorem load_of_clip (e : Engine) {clip : Clip} (h : Clip.ofAudio a = .ok clip) :
    e.load a = .ok { e with
        clip := some clip, cursor := 0, monitor := { e.monitor with position := 0 } }
      ∧ e.perform (.load a) = { e with
        clip := some clip, cursor := 0, monitor := { e.monitor with position := 0 } } := by
  rcases e.perform_load a with ⟨clip', hok, hload⟩ | ⟨err, herror, -⟩
  · obtain rfl : clip = clip' := Except.ok.inj (h.symm.trans hok)
    refine ⟨?_, hload⟩
    rw [load, h]
    rfl
  · rw [h] at herror
    cases herror

end Engine

namespace Session

variable {σ : Type} [Link σ]

/-- The ways to load audio into a session: from memory, and from a file that contains it.  They
    differ in the source of the clip. -/
inductive Loads (s : Session σ) (a : Audio) : Option String → Outcome σ ClipInfo → Prop where
  | clip : Loads s a none (s.loadClip a)
  | file {files : FileTree} {path : String} (hread : Wav.read files path = .ok a) :
      Loads s a (some path) (s.loadFile files path)

variable {s : Session σ} {source : Option String} {outcome : Outcome σ ClipInfo}

/-- Both install the audio under its source; a file adds a note on the time it took. -/
theorem Loads.eq_install (h : s.Loads a source outcome) :
    outcome.session = (s.install a source).session
      ∧ outcome.result = (s.install a source).result := by
  cases h with
  | clip => exact ⟨rfl, rfl⟩
  | file hread =>
    unfold loadFile
    rw [hread]
    exact ⟨rfl, rfl⟩

/-- Audio that fails a test leaves the session as it was. -/
theorem Loads.refused (h : s.Loads a source outcome) {err : LoadError}
    (hfault : a.fault? = some err) :
    outcome.result = .error (.error (.unusableClip err)) ∧ outcome.session = s := by
  obtain ⟨hsession, hresult⟩ := h.eq_install
  obtain ⟨herror, -⟩ := s.engine.load_of_fault hfault
  rcases s.install_cases a source with ⟨err', herror', hsame, hanswer⟩ | ⟨engine, hok, -⟩
  · obtain rfl : err = err' := Except.error.inj (herror.symm.trans herror')
    exact ⟨hresult.trans hanswer, hsession.trans hsame⟩
  · rw [herror] at hok
    cases hok

/-- Audio that can be a clip becomes that of the engine, and the session notes its source. -/
theorem Loads.accepted (h : s.Loads a source outcome) {clip : Clip}
    (hclip : Clip.ofAudio a = .ok clip) :
    let info : ClipInfo :=
      { source, frameCount := a.frameCount, channels := a.channels, rate := a.rate }
    outcome.result = .ok info
      ∧ outcome.session = { s with
          engine := { s.engine with
            clip := some clip, cursor := 0, monitor := { s.engine.monitor with position := 0 } }
          clip := some info } := by
  intro info
  obtain ⟨hsession, hresult⟩ := h.eq_install
  obtain ⟨hload, -⟩ := s.engine.load_of_clip hclip
  rcases s.install_cases a source with ⟨err, herror, -⟩ | ⟨engine, hok, hnew, hanswer⟩
  · rw [hload] at herror
    cases herror
  · obtain rfl := Except.ok.inj (hload.symm.trans hok)
    exact ⟨hresult.trans hanswer, hsession.trans hnew⟩

end Session

/-- The outcomes for audio that fails a test. -/
structure Audio.Refused (a : Audio) (err : LoadError) : Prop where
  /-- An engine returns the error of that test and stays the same, with its monitor. -/
  engine : ∀ e : Engine, e.load a = .error err ∧ e.perform (.load a) = e
  /-- A session also returns the error and stays the same, whether it loads from memory or from a
      file. -/
  session : ∀ {σ : Type} [Link σ] (s : Session σ) source outcome, s.Loads a source outcome →
    outcome.result = .error (.error (.unusableClip err)) ∧ outcome.session = s

/-- The outcomes for audio that passes all tests. -/
structure Audio.Accepted (a : Audio) (clip : Clip) : Prop where
  /-- The clip has the samples that the counts promise, and no others. -/
  samples_eq : clip.samples.toList = a.samples.toList.take (a.frameCount * a.channels)
  frameCount_eq : clip.frameCount = a.frameCount
  channels_eq : clip.channels = a.channels
  rate_eq : clip.rate = a.rate
  /-- Every engine gets this clip, whatever it had before.  The cursor and the shown position are at
      its start, and nothing else has changed. -/
  engine : ∀ e : Engine,
    let loaded := { e with
      clip := some clip, cursor := 0, monitor := { e.monitor with position := 0 } }
    e.load a = .ok loaded ∧ e.perform (.load a) = loaded
  /-- The engine of every session gets this clip, too, and the session stores its description. -/
  session : ∀ {σ : Type} [Link σ] (s : Session σ) source outcome, s.Loads a source outcome →
    let info : ClipInfo :=
      { source, frameCount := a.frameCount, channels := a.channels, rate := a.rate }
    outcome.result = .ok info
      ∧ outcome.session = { s with
          engine := { s.engine with
            clip := some clip
            cursor := 0
            monitor := { s.engine.monitor with position := 0 } }
          clip := some info }

/-- The law of loading. -/
structure Audio.AllOrNothing (a : Audio) : Prop where
  /-- Audio passes all tests exactly if it has samples, both counts are positive, their product fits
      into 64 bits, and there are at least that many samples. -/
  fault?_eq_none_iff : a.fault? = none
    ↔ 0 < a.samples.size ∧ 0 < a.frameCount ∧ 0 < a.channels
      ∧ a.frameCount * a.channels < 2 ^ 64 ∧ a.frameCount * a.channels ≤ a.samples.size
  /-- The first failing test gives the error. -/
  refused : ∀ err, a.fault? = some err → a.Refused err
  accepted : a.fault? = none → ∃ clip, a.Accepted clip
  /-- A file that cannot be read changes nothing either. -/
  unreadable : ∀ {σ : Type} [Link σ] (s : Session σ) files path err,
    Wav.read files path = .error err →
      (s.loadFile files path).result = .error (.error (.unreadable path err))
        ∧ (s.loadFile files path).session = s

/-- **A load is all or nothing.** Audio that passes all tests becomes the clip of every engine and
    of every session in the same way; any other audio leaves them unchanged. -/
theorem load_all_or_nothing (a : Audio) : a.AllOrNothing where
  fault?_eq_none_iff := a.fault?_eq_none_iff
  refused err hfault :=
    { engine := fun e => e.load_of_fault hfault
      session := fun s source outcome h => h.refused hfault }
  accepted hsound := by
    obtain ⟨clip, hclip, hsamples, hframes, hchannels, hrate⟩ := Clip.ofAudio_of_sound hsound
    exact ⟨clip,
      { samples_eq := hsamples
        frameCount_eq := hframes
        channels_eq := hchannels
        rate_eq := hrate
        engine := fun e => e.load_of_clip hclip
        session := fun s source outcome h => h.accepted hclip }⟩
  unreadable s files path err hread := (s.loadFile_of_error hread).symm

/-- One sample more than two frames of two channels have. -/
def surplusAudio : Audio :=
  { samples := #[.one, .half, .negOne, .zero, .one], frameCount := 2, channels := 2, rate := 8 }

/-- One sample, but with counts whose product does not fit into 64 bits. -/
def endlessAudio : Audio :=
  { samples := #[.one], frameCount := 2 ^ 63, channels := 2, rate := 8 }

/-- A session that plays a clip. -/
def playingSession : Session OfflineLink :=
  let s := Session.offline {} true false
    { output := { rate := 8, channels := 1 }, input := { rate := 8, channels := 1 } }
  ((s.loadClip { samples := #[.half], frameCount := 1, channels := 1, rate := 8 }).session.start
    0).session

/-- While it plays, the session gets another clip, and keeps it when later loads fail. -/
theorem load_all_or_nothing_while_playing :
    playingSession.isRunning = true
      ∧ surplusAudio.fault? = none
      ∧ endlessAudio.fault? = some (.tooLarge (2 ^ 63) 2)
      ∧ ∃ clip : Clip, clip.samples.toList = [.one, .half, .negOne, .zero]
        ∧ let loaded := (playingSession.loadClip surplusAudio).session
          loaded.engine.clip = some clip
            ∧ loaded.isRunning = true
            ∧ (loaded.loadClip endlessAudio).session = loaded
            ∧ (loaded.loadFile {} "").session = loaded := by
  have hfault : endlessAudio.fault? = some (.tooLarge (2 ^ 63) 2) := by decide
  have hread : Wav.read {} "" = .error (.opening "" (.file .notFound)) := by
    have hordinary : "".contains '\x00' = false := by simp
    have hempty : "".isEmpty = true := by decide
    simp only [Wav.read, FileTree.read, FileTree.resolve, FileTree.segments, FileTree.split,
      hordinary, hempty, if_true, Bool.false_eq_true, if_false]
    rfl
  have hsurplus := load_all_or_nothing surplusAudio
  have hendless := (load_all_or_nothing endlessAudio).refused _ hfault
  obtain ⟨clip, haccepted⟩ := hsurplus.accepted (by decide)
  obtain ⟨-, hloaded⟩ := haccepted.session playingSession none _ .clip
  refine ⟨rfl, by decide, hfault, clip, haccepted.samples_eq, ?_, ?_, ?_, ?_⟩
  · rw [hloaded]
  · rw [hloaded]
    rfl
  · exact (hendless.session _ none _ .clip).2
  · exact (hsurplus.unreadable _ {} "" _ hread).2

end Loopback
