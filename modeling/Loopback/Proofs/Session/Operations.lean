import Loopback.Proofs.Callback.Kept
import Loopback.Proofs.Session.Run

/-! # Outcomes of the operations of a session

    Each operation on a session, over any link, is analysed here once: its possible outcomes, and
    for each of them the session and the result.  Properties of sessions are derived from these
    cases.

    * `Session.opened` is a new session, over any link.
    * `Session.afterAll` performs actions one after the other.
    * `install_cases`, `loadFile_session`, `exportTo_session`, `start_of_refused`, `start_of_error`,
      `start_of_success`, `stop_of_stopped`, `stop_of_running`, `pump_of_idle` and `pump_of_driven`
      are the outcomes of the operations.
    * `after_kept` says what has to be shown of a property that all operations but starts and stops
      preserve.
-/

namespace Loopback

/-- Callbacks change neither the options nor the clip, nor whether an engine runs. -/
theorem Engine.keptByCallbacks_controls (options : Options) (clip : Option Clip) (running : Bool) :
    KeptByCallbacks fun e =>
      e.options = options ∧ e.clip = clip ∧ e.monitor.running = running where
  call e call h := by
    have hrender (e : Engine) (output : List Sample) (count channels : Nat) :
        (e.render output count channels).1.options = e.options
          ∧ (e.render output count channels).1.clip = e.clip
          ∧ (e.render output count channels).1.monitor.running = e.monitor.running := by
      unfold render
      split
      · exact ⟨rfl, rfl, rfl⟩
      · split <;> exact ⟨rfl, rfl, rfl⟩
    have hcapture (e : Engine) (input : List Sample) (count channels : Nat) :
        (e.capture input count channels).options = e.options
          ∧ (e.capture input count channels).clip = e.clip
          ∧ (e.capture input count channels).monitor.running = e.monitor.running := by
      unfold capture
      split <;> exact ⟨rfl, rfl, rfl⟩
    obtain ⟨hoptions, hclip, hrunning⟩ :=
      hrender e call.output call.outputCount call.channels.output
    obtain ⟨hoptions', hclip', hrunning'⟩ :=
      hcapture (e.render call.output call.outputCount call.channels.output).1 call.input
        call.inputCount call.channels.input
    exact ⟨hoptions'.trans (hoptions.trans h.1), hclip'.trans (hclip.trans h.2.1),
      hrunning'.trans (hrunning.trans h.2.2)⟩
  skipped _ h := h
  dropped _ _ h := h

namespace Session

variable {σ : Type}

/-- A new session over a link, with a driver if the link is a simulated one. -/
def opened (options : Options) (loopMode logTimings : Bool) (link : σ)
    (driver : Option OfflineDriver) : Session σ :=
  { engine := (Engine.new options).setLoopMode loopMode
    link
    driver
    logTimings }

theorem offline_eq_opened (options : Options) (loopMode logTimings : Bool) (link : OfflineLink) :
    offline options loopMode logTimings link
      = opened options loopMode logTimings link (some { link }) := rfl

section

variable [Link σ]

def afterAll (s : Session σ) (actions : List Action) : Session σ := actions.foldl after s

theorem afterAll_cons (s : Session σ) (a : Action) (actions : List Action) :
    s.afterAll (a :: actions) = (s.after a).afterAll actions := rfl

end

/-! ### Outcomes -/

/-- Failing without a change passes the error or the result on. -/
theorem unchanged_error {α : Type} (s : Session σ) (entries : List Entry) (err : SessionError) :
    (s.unchanged entries (.error err) : Outcome σ α)
      = { session := s, entries, result := .error (.error err) } := rfl

theorem unchanged_ok {α : Type} (s : Session σ) (entries : List Entry) (value : α) :
    s.unchanged entries (.ok value) = { session := s, entries, result := .ok value } := rfl

/-- A start is refused, or it reaches the link. -/
theorem refused_or_admitted (s : Session σ) :
    (s.clip = none ∨ s.isRunning = true) ∨ (s.clip ≠ none ∧ s.isRunning = false) := by
  by_cases hclip : s.clip = none
  · exact Or.inl (Or.inl hclip)
  · cases hrunning : s.isRunning with
    | true => exact Or.inl (Or.inr rfl)
    | false => exact Or.inr ⟨hclip, rfl⟩

/-- Why a start is refused before it reaches the link. -/
def refusal (s : Session σ) : SessionError :=
  if s.clip.isNone then .noClip else .alreadyRunning

section

variable [Link σ] (s : Session σ)

/-- Audio becomes the clip of the engine and of the session, or nothing changes. -/
theorem install_cases (a : Audio) (source : Option String) :
    (∃ err, s.engine.load a = .error err ∧ (s.install a source).session = s
        ∧ (s.install a source).result = .error (.error (.unusableClip err)))
      ∨ ∃ engine, s.engine.load a = .ok engine
        ∧ (s.install a source).session
          = { s with
              engine
              clip := some
                { source, frameCount := a.frameCount, channels := a.channels, rate := a.rate } }
        ∧ (s.install a source).result = .ok
          { source, frameCount := a.frameCount, channels := a.channels, rate := a.rate } := by
  unfold install
  cases hload : s.engine.load a with
  | error err => exact Or.inl ⟨err, rfl, rfl, rfl⟩
  | ok engine => exact Or.inr ⟨engine, rfl, rfl, rfl⟩

/-- A file that can be read is installed as its audio is. -/
theorem loadFile_session (files : FileTree) (path : String) :
    (s.loadFile files path).session = s
      ∨ ∃ a, (s.loadFile files path).session = (s.install a (some path)).session := by
  unfold loadFile
  cases Wav.read files path with
  | error err => exact Or.inl rfl
  | ok a => exact Or.inr ⟨a, rfl⟩

/-- Without a clip, or while the session runs, a start is refused without effect. -/
theorem start_of_refused (h : s.clip = none ∨ s.isRunning = true) (now : Nat) :
    s.start now = { session := s, entries := [], result := .error (.error s.refusal) } := by
  by_cases hnone : s.clip.isNone = true
  · simp only [start, refusal, hnone, if_true, unchanged_error]
  · have hrunning : s.isRunning = true := h.resolve_left fun hclip => hnone (by rw [hclip]; rfl)
    simp only [start, refusal, hnone, hrunning, if_true, Bool.false_eq_true, if_false,
      unchanged_error]

section

variable {s : Session σ} (hclip : s.clip ≠ none) (hstopped : s.isRunning = false) {link : σ}

include hclip hstopped

/-- If the link refuses, the engine has been prepared all the same. -/
theorem start_of_error {err : StreamError} (hlink : Link.start s.link = (link, .error err))
    (now : Nat) :
    (s.start now).session
        = { s with
            engine := s.engine.prepare (Link.outputFormat s.link) (Link.inputFormat s.link)
            link }
      ∧ (s.start now).result = .error (.error (.start err)) := by
  have hnone : ¬s.clip.isNone = true := fun h => hclip (Option.isNone_iff_eq_none.mp h)
  simp only [start, hnone, hstopped, Bool.false_eq_true, if_false, Engine.start, hlink,
    unchanged_error, and_self]

/-- If the link starts, the session runs, and its driver is reset. -/
theorem start_of_success (hlink : Link.start s.link = (link, .ok ())) (now : Nat) :
    (s.start now).session
        = { s with
            engine :=
              (s.engine.prepare (Link.outputFormat s.link) (Link.inputFormat s.link)
                ).setRunning true
            link
            driver := s.driver.map (·.reset)
            startedAt := some now }
      ∧ (s.start now).result = .ok () := by
  have hnone : ¬s.clip.isNone = true := fun h => hclip (Option.isNone_iff_eq_none.mp h)
  simp only [start, hnone, hstopped, Bool.false_eq_true, if_false, Engine.start, hlink, and_self]

end

/-- A start succeeds exactly if there is a clip, the session does not run and the link starts. -/
theorem start_ok_iff (now : Nat) :
    (s.start now).result = .ok ()
      ↔ s.clip ≠ none ∧ s.isRunning = false ∧ (Link.start s.link).2 = .ok () := by
  rcases s.refused_or_admitted with hrefused | ⟨hclip, hstopped⟩
  · rw [s.start_of_refused hrefused]
    constructor
    · intro h
      cases h
    · rintro ⟨hclip, hstopped, -⟩
      rcases hrefused with hnone | hrunning
      · exact absurd hnone hclip
      · exact absurd (hstopped.symm.trans hrunning) (by decide)
  · rcases hlink : Link.start s.link with ⟨link, err | _⟩
    · rw [(start_of_error hclip hstopped hlink now).2]
      constructor
      · intro h
        cases h
      · rintro ⟨-, -, h⟩
        cases h
    · rw [(start_of_success hclip hstopped hlink now).2]
      exact ⟨fun _ => ⟨hclip, hstopped, rfl⟩, fun _ => rfl⟩

/-- The session after a start that succeeds. -/
theorem start_of_ok {now : Nat} (h : (s.start now).result = .ok ()) :
    (s.start now).session
      = { s with
          engine :=
            (s.engine.prepare (Link.outputFormat s.link) (Link.inputFormat s.link)).setRunning true
          link := (Link.start s.link).1
          driver := s.driver.map (·.reset)
          startedAt := some now } := by
  obtain ⟨hclip, hstopped, hok⟩ := (s.start_ok_iff now).mp h
  rcases hlink : Link.start s.link with ⟨link, err | _⟩
  · cases hlink ▸ hok
  · rw [(start_of_success hclip hstopped hlink now).1]

/-- A stop does nothing to a session that does not run. -/
theorem stop_of_stopped (h : s.isRunning = false) (now : Nat) :
    s.stop now = { session := s, entries := [], result := .ok () } := by
  simp only [stop, h, Bool.not_false, if_true, unchanged_ok]

/-- A running session is stopped, whatever the link answers. -/
theorem stop_of_running (h : s.isRunning = true) (now : Nat) :
    (s.stop now).session
        = { s with
            engine := s.engine.setRunning false
            link := (Link.stop s.link).1
            startedAt := none }
      ∧ (s.stop now).result = ((Link.stop s.link).2.mapError .stop).mapError .error := by
  simp only [stop, h, Bool.not_true, Bool.false_eq_true, if_false, Engine.stop, and_self]

end

/-- Either time has no effect on a session, or there is a driver and the session runs. -/
theorem idle_or_driven (s : Session σ) :
    (s.driver = none ∨ s.isRunning = false) ∨ ∃ d, s.driver = some d ∧ s.isRunning = true := by
  cases hdriver : s.driver with
  | none => exact Or.inl (Or.inl rfl)
  | some d =>
    cases hruns : s.isRunning with
    | false => exact Or.inl (Or.inr rfl)
    | true => exact Or.inr ⟨d, rfl, rfl⟩

/-- Without a driver, or while the session does not run, time has no effect. -/
theorem pump_of_idle {s : Session σ} (h : s.driver = none ∨ s.isRunning = false) (elapsed : Nat) :
    s.pump elapsed = { session := s, entries := [], result := .ok 0 } := by
  unfold pump
  cases hdriver : s.driver with
  | none => rfl
  | some d =>
    have hsome : s.driver ≠ none := by
      rw [hdriver]
      exact Option.some_ne_none d
    have hstopped : s.isRunning = false := h.resolve_left hsome
    simp only [hstopped, Bool.not_false, if_true, unchanged_ok]

/-- While the session runs, time passes on its driver and its engine. -/
theorem pump_of_driven {s : Session σ} {d : OfflineDriver} (hdriver : s.driver = some d)
    (hruns : s.isRunning = true) (elapsed : Nat) :
    (∃ poisoned, (s.pump elapsed).session
        = { s with
            engine := (d.run s.engine elapsed).2.1
            driver := some (d.run s.engine elapsed).1
            lockPoisoned := poisoned })
      ∧ (s.pump elapsed).result
        = match (d.run s.engine elapsed).2.2 with
          | some callbacks => .ok callbacks
          | none => .error .crash := by
  simp only [pump, hdriver, hruns, Bool.not_true, Bool.false_eq_true, if_false]
  rcases d.run s.engine elapsed with ⟨after, engine, callbacks⟩
  cases callbacks with
  | some callbacks => exact ⟨⟨_, rfl⟩, rfl⟩
  | none => exact ⟨⟨_, rfl⟩, rfl⟩

/-- An export depends only on the recording and on whether the session runs.  Two sessions that
    agree on these either both crash or both do not. -/
theorem exportTo_congr {τ : Type} (s : Session σ) (s' : Session τ) {kind : RecordingKind}
    (hrunning : s'.isRunning = s.isRunning) (hrecording : s'.recording? kind = s.recording? kind)
    (files : FileTree) (dir : String) (now : Nat) :
    (s'.exportTo files kind dir now).1 = (s.exportTo files kind dir now).1
      ∧ (s'.exportTo files kind dir now).2.result = (s.exportTo files kind dir now).2.result
      ∧ ∃ broken, (s.exportTo files kind dir now).2.session
            = { s with lockPoisoned := s.lockPoisoned || broken }
          ∧ (s'.exportTo files kind dir now).2.session
            = { s' with lockPoisoned := s'.lockPoisoned || broken } := by
  have hkeep {υ : Type} (t : Session υ) :
      t = { t with lockPoisoned := t.lockPoisoned || false } := by
    rw [Bool.or_false]
  have hbreak {υ : Type} (t : Session υ) :
      { t with lockPoisoned := true } = { t with lockPoisoned := t.lockPoisoned || true } := by
    rw [Bool.or_true]
  -- from here on both do the same; only a file without a header makes them crash
  unfold exportTo
  rw [hrunning, hrecording]
  by_cases hruns : s.isRunning = true
  · rw [if_pos hruns, if_pos hruns]
    exact ⟨rfl, rfl, false, hkeep s, hkeep s'⟩
  · rw [if_neg hruns, if_neg hruns]
    cases s.recording? kind with
    | none => exact ⟨rfl, rfl, false, hkeep s, hkeep s'⟩
    | some recording =>
      obtain ⟨made, created⟩ := files.createDirs dir
      cases created with
      | error err => exact ⟨rfl, rfl, false, hkeep s, hkeep s'⟩
      | ok _ =>
        dsimp only
        cases Wav.write made (exportPath dir kind now) recording.1 recording.2.rate with
        | failed err => exact ⟨rfl, rfl, false, hkeep s, hkeep s'⟩
        | noHeader files => exact ⟨rfl, rfl, true, hbreak s, hbreak s'⟩
        | file files bytes => exact ⟨rfl, rfl, false, hkeep s, hkeep s'⟩

/-- Whether an action may start or stop the link. -/
def Action.asksLink : Action → Bool
  | .start _ | .stop _ => true
  | .loadClip _ | .loadFile _ _ | .loopMode _ | .pump _ | .exportTo _ _ _ _ => false

section

variable [Link σ] {s : Session σ} {a : Action}

/-- An action that does not ask the link preserves a property if loads, switches of the loop mode,
    time and exports that crash do. -/
theorem after_kept {P : Session σ → Prop} (h : P s)
    (hinstall : ∀ a source, P (s.install a source).session) (hloop : ∀ on, P (s.setLoopMode on))
    (hpump : ∀ elapsed, P (s.pump elapsed).session) (hbroken : P { s with lockPoisoned := true })
    (ha : a.asksLink = false) : P (s.after a) := by
  cases a with
  | loadClip a => exact hinstall a none
  | loadFile files path =>
    show P (s.loadFile files path).session
    rcases s.loadFile_session files path with heq | ⟨a, heq⟩
    · rw [heq]
      exact h
    · rw [heq]
      exact hinstall a (some path)
  | loopMode on => exact hloop on
  | start now => cases ha
  | pump elapsed => exact hpump elapsed
  | stop now => cases ha
  | exportTo files kind dir now =>
    show P (s.exportTo files kind dir now).2.session
    rcases s.exportTo_session files kind dir now with heq | ⟨heq, -⟩
    · rw [heq]
      exact h
    · rw [heq]
      exact hbroken

/-- Without asking the link, an action changes neither the link nor whether the session runs. -/
theorem after_of_not_asksLink (ha : a.asksLink = false) :
    (s.after a).link = s.link ∧ (s.after a).isRunning = s.isRunning := by
  refine after_kept (P := fun t => t.link = s.link ∧ t.isRunning = s.isRunning) ⟨rfl, rfl⟩
    (fun a source => ?_) (fun on => ⟨rfl, rfl⟩) (fun elapsed => ?_) ⟨rfl, rfl⟩ ha
  · rcases s.install_cases a source with ⟨err, -, heq, -⟩ | ⟨engine, hload, heq, -⟩
    · rw [heq]
      exact ⟨rfl, rfl⟩
    · obtain ⟨clip, -, rfl⟩ := Engine.load_of_ok hload
      rw [heq]
      exact ⟨rfl, rfl⟩
  · rcases s.idle_or_driven with hidle | ⟨d, hdriver, hruns⟩
    · rw [pump_of_idle hidle]
      exact ⟨rfl, rfl⟩
    · obtain ⟨⟨poisoned, heq⟩, -⟩ := pump_of_driven hdriver hruns elapsed
      obtain ⟨-, -, hkept⟩ :=
        d.run_kept (Engine.keptByCallbacks_controls s.engine.options s.engine.clip s.isRunning)
          ⟨rfl, rfl, rfl⟩ elapsed
      rw [heq]
      exact ⟨rfl, hkept⟩

end

end Session

end Loopback
