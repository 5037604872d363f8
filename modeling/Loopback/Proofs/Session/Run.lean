import Loopback.Proofs.Engine.Run
import Loopback.Proofs.Offline
import Loopback.Proofs.Wav.RoundTrip
import Loopback.Session

/-! # Runs of an offline session

    Clips are loaded, the loop mode is switched, runs are started, pumped and stopped, recordings
    are exported, in any order and in any state.  A tape beside the session collects the frames of
    its callbacks since the latest start.

    * `Session.after` performs one action, over any link.
    * `Taped.run` performs actions one after the other and keeps the tape.
    * `Keeps` is the invariant: the recordings of the session's engine hold the first frames of the
      tape, in the formats of the link.
-/

namespace Loopback.Session

/-- An operation of a session. -/
inductive Action where
  | loadClip (a : Audio)
  | loadFile (files : FileTree) (path : String)
  | loopMode (on : Bool)
  | start (now : Nat)
  | pump (elapsed : Nat)
  | stop (now : Nat)
  | exportTo (files : FileTree) (kind : RecordingKind) (dir : String) (now : Nat)

/-- The session after an action, whether it succeeded or not. -/
def after {σ : Type} [Link σ] (s : Session σ) : Action → Session σ
  | .loadClip a => (s.loadClip a).session
  | .loadFile files path => (s.loadFile files path).session
  | .loopMode on => s.setLoopMode on
  | .start now => (s.start now).session
  | .pump elapsed => (s.pump elapsed).session
  | .stop now => (s.stop now).session
  | .exportTo files kind dir now => (s.exportTo files kind dir now).2.session

/-- The tape after an action.  A start that reaches the link begins a new one; a pump of a running
    session appends its callbacks. -/
def tapeAfter (s : Session OfflineLink) (tape : Tape) : Action → Tape
  | .start _ => if s.clip.isNone || s.isRunning then tape else {}
  | .pump elapsed =>
    match s.driver with
    | none => tape
    | some d => if s.isRunning then tape ++ d.tape s.engine elapsed else tape
  | .loadClip _ | .loadFile _ _ | .loopMode _ | .stop _ | .exportTo _ _ _ _ => tape

/-- A session with the tape of its latest run. -/
structure Taped where
  session : Session OfflineLink
  tape : Tape := {}

namespace Taped

def perform (t : Taped) (a : Action) : Taped :=
  { session := t.session.after a, tape := t.session.tapeAfter t.tape a }

def run (t : Taped) (actions : List Action) : Taped := actions.foldl perform t

end Taped

/-! ### The invariant -/

/-- The engine has not been started yet, or it keeps the tape. -/
def Shows (link : OfflineLink) (seconds : Nat) (tape : Tape) (e : Engine) : Prop :=
  (e.played = none ∧ e.recorded = none ∧ e.monitor.running = false ∧ tape = {})
    ∨ e.Keeps link.output link.input seconds tape

/-- The session has the formats of the link that it was opened over, and its engine shows the tape.
    -/
structure Keeps (link : OfflineLink) (seconds : Nat) (tape : Tape) (s : Session OfflineLink) :
    Prop where
  output_eq : s.link.output = link.output
  input_eq : s.link.input = link.input
  driver : ∃ d, s.driver = some d ∧ d.link.output = link.output ∧ d.link.input = link.input
  seconds_eq : s.engine.options.maxRecordSeconds = seconds
  shows : Shows link seconds tape s.engine

/-- A link with channels in both directions. -/
structure Audible (link : OfflineLink) : Prop where
  output_pos : 0 < link.output.channels
  input_pos : 0 < link.input.channels

theorem keeps_offline (options : Options) (loopMode logTimings : Bool) (link : OfflineLink) :
    Keeps link options.maxRecordSeconds {} (offline options loopMode logTimings link) where
  output_eq := rfl
  input_eq := rfl
  driver := ⟨_, rfl, rfl, rfl⟩
  seconds_eq := rfl
  shows := Or.inl ⟨rfl, rfl, rfl, rfl⟩

section

variable {link : OfflineLink} {seconds : Nat} {tape : Tape} {e e' : Engine}

/-- Only the formats, the recordings and whether the engine runs matter. -/
theorem Shows.of_eq (h : Shows link seconds tape e) (houtput : e'.outputFormat = e.outputFormat)
    (hinput : e'.inputFormat = e.inputFormat) (hplayed : e'.played = e.played)
    (hrecorded : e'.recorded = e.recorded)
    (hrunning : e.monitor.running = false → e'.monitor.running = false) :
    Shows link seconds tape e' := by
  rcases h with ⟨hnone, hnone', hstopped, htape⟩ | h
  · exact Or.inl ⟨by rw [hplayed, hnone], by rw [hrecorded, hnone'], hrunning hstopped, htape⟩
  · exact Or.inr (h.of_eq houtput hinput hplayed hrecorded)

end

section

variable {link : OfflineLink} {seconds : Nat} {tape : Tape} {s : Session OfflineLink}

theorem Keeps.install (h : Keeps link seconds tape s) (a : Audio) (source : Option String) :
    Keeps link seconds tape (s.install a source).session := by
  unfold Session.install
  cases hload : s.engine.load a with
  | error err => exact h
  | ok e =>
    obtain ⟨clip, -, rfl⟩ := Engine.load_of_ok hload
    exact ⟨h.output_eq, h.input_eq, h.driver, h.seconds_eq,
      h.shows.of_eq rfl rfl rfl rfl (fun hstopped => hstopped)⟩

theorem Keeps.loadFile (h : Keeps link seconds tape s) (files : FileTree) (path : String) :
    Keeps link seconds tape (s.loadFile files path).session := by
  unfold Session.loadFile
  cases Wav.read files path with
  | error err => exact h
  | ok a => exact h.install a (some path)

/-- A start that reaches the link begins a new tape, even if the link refuses. -/
theorem Keeps.start (h : Keeps link seconds tape s) (hlink : Audible link) (now : Nat) :
    Keeps link seconds (s.tapeAfter tape (.start now)) (s.start now).session := by
  by_cases hnone : s.clip.isNone = true
  · simp only [tapeAfter, Session.start, hnone, Bool.true_or, if_true]
    exact h
  · by_cases hrunning : s.isRunning = true
    · simp only [tapeAfter, Session.start, hnone, hrunning, Bool.or_true, if_true,
        Bool.false_eq_true, if_false]
      exact h
    · -- the engine makes itself ready before the link is asked
      have hprepared : (s.engine.prepare s.link.output s.link.input).Keeps link.output link.input
          seconds {} := by
        rw [h.output_eq, h.input_eq, ← h.seconds_eq]
        exact s.engine.keeps_prepare hlink.output_pos hlink.input_pos
      obtain ⟨d, hd, hdoutput, hdinput⟩ := h.driver
      simp only [tapeAfter, Session.start, hnone, hrunning, Bool.or_self, Bool.false_eq_true,
        if_false, Engine.start, Link.start, OfflineLink.start, Link.outputFormat, Link.inputFormat]
      cases hrefusal : s.link.failNextStart with
      | some reason =>
        exact ⟨h.output_eq, h.input_eq, h.driver, h.seconds_eq, Or.inr hprepared⟩
      | none =>
        refine ⟨h.output_eq, h.input_eq, ⟨d.reset, ?_, hdoutput, hdinput⟩, h.seconds_eq, Or.inr ?_⟩
        · rw [hd]
          rfl
        · exact hprepared.of_eq rfl rfl rfl rfl

/-- A running session was started, so its engine keeps the tape. -/
theorem Keeps.engine_of_running (h : Keeps link seconds tape s) (hrunning : s.isRunning = true) :
    s.engine.Keeps link.output link.input seconds tape := by
  rcases h.shows with ⟨-, -, hstopped, -⟩ | hkeeps
  · exact absurd (hstopped.symm.trans hrunning) (by simp)
  · exact hkeeps

/-- While the session runs, the due callbacks are added to the tape. -/
theorem Keeps.pump (h : Keeps link seconds tape s) (hlink : Audible link) (elapsed : Nat) :
    Keeps link seconds (s.tapeAfter tape (.pump elapsed)) (s.pump elapsed).session := by
  obtain ⟨d, hd, hdoutput, hdinput⟩ := h.driver
  by_cases hrunning : s.isRunning = true
  · have hkeeps : s.engine.Keeps d.link.output d.link.input seconds tape := by
      rw [hdoutput, hdinput]
      exact h.engine_of_running hrunning
    obtain ⟨d', e', callbacks, hrun, hd', hoptions, -, hkeeps'⟩ :=
      OfflineDriver.keeps_run (by rw [hdinput]; exact hlink.input_pos)
        (by rw [hdoutput]; exact hlink.output_pos) hkeeps elapsed
    rw [hdoutput, hdinput] at hkeeps'
    simp only [tapeAfter, Session.pump, hd, hrunning, hrun, Bool.not_true, Bool.false_eq_true,
      if_true, if_false]
    exact ⟨h.output_eq, h.input_eq, ⟨d', rfl, by rw [hd', hdoutput], by rw [hd', hdinput]⟩,
      by rw [hoptions, h.seconds_eq], Or.inr hkeeps'⟩
  · simp only [tapeAfter, Session.pump, hd, hrunning, Bool.not_false, Bool.false_eq_true, if_true,
      if_false]
    exact h

/-- A stop keeps the recordings. -/
theorem Keeps.stop (h : Keeps link seconds tape s) (now : Nat) :
    Keeps link seconds tape (s.stop now).session := by
  by_cases hrunning : s.isRunning = true
  · simp only [Session.stop, hrunning, Bool.not_true, Bool.false_eq_true, if_false]
    exact ⟨h.output_eq, h.input_eq, h.driver, h.seconds_eq,
      h.shows.of_eq rfl rfl rfl rfl fun _ => rfl⟩
  · simp only [Session.stop, hrunning, Bool.not_false, if_true]
    exact h

/-- An export leaves the session as it is, unless it crashes while it holds the engine's lock, as
    that of a recording with rate zero does. -/
theorem exportTo_session {σ : Type} (s : Session σ) (files : FileTree) (kind : RecordingKind)
    (dir : String) (now : Nat) :
    (s.exportTo files kind dir now).2.session = s
      ∨ (s.exportTo files kind dir now).2.session = { s with lockPoisoned := true }
        ∧ ∃ r format, s.recording? kind = some (r, format) ∧ format.rate = 0 := by
  unfold Session.exportTo
  by_cases hrunning : s.isRunning = true
  · exact Or.inl (by simp only [hrunning, if_true]; rfl)
  · simp only [hrunning, Bool.false_eq_true, if_false]
    cases s.recording? kind with
    | none => exact Or.inl rfl
    | some recording =>
      obtain ⟨made, created⟩ := files.createDirs dir
      cases created with
      | error err => exact Or.inl rfl
      | ok _ =>
        dsimp only
        cases hwrite : Wav.write made (exportPath dir kind now) recording.1 recording.2.rate with
        | failed err => exact Or.inl rfl
        | noHeader files => exact Or.inr ⟨rfl, _, _, rfl, Wav.rate_of_noHeader hwrite⟩
        | file files bytes => exact Or.inl rfl

theorem Keeps.exportTo (h : Keeps link seconds tape s) (files : FileTree) (kind : RecordingKind)
    (dir : String) (now : Nat) :
    Keeps link seconds tape (s.exportTo files kind dir now).2.session := by
  rcases s.exportTo_session files kind dir now with heq | ⟨heq, -⟩
  · rw [heq]
    exact h
  · rw [heq]
    exact ⟨h.output_eq, h.input_eq, h.driver, h.seconds_eq, h.shows⟩

/-- Every action preserves the invariant. -/
theorem Keeps.after (h : Keeps link seconds tape s) (hlink : Audible link) (a : Action) :
    Keeps link seconds (s.tapeAfter tape a) (s.after a) := by
  cases a with
  | loadClip a => exact h.install a none
  | loadFile files path => exact h.loadFile files path
  | loopMode on =>
    exact ⟨h.output_eq, h.input_eq, h.driver, h.seconds_eq,
      h.shows.of_eq rfl rfl rfl rfl fun hstopped => hstopped⟩
  | start now => exact h.start hlink now
  | pump elapsed => exact h.pump hlink elapsed
  | stop now => exact h.stop now
  | exportTo files kind dir now => exact h.exportTo files kind dir now

theorem Keeps.run {t : Taped} (h : Keeps link seconds t.tape t.session) (hlink : Audible link)
    (actions : List Action) :
    Keeps link seconds (t.run actions).tape (t.run actions).session := by
  induction actions generalizing t with
  | nil => exact h
  | cons a actions ih => exact ih (h.after hlink a)

end

end Loopback.Session
