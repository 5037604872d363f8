import Loopback.Proofs.Offline.Echo
import Loopback.Proofs.Session.Run

/-! # The chronicle of a run

    A chronicle of the latest run is kept beside an offline session and its tape: the time that was
    pumped since the start, the number of callbacks that the pumps returned, and the blocks of each
    callback.  Time and blocks are not taken from the session's counters.

    * `Chronicled.run` performs actions one after the other and keeps the chronicle.
    * `Account` is the invariant of a run: it relates the driver to the time, and the counters of
      the engine to the callbacks.
    * `Follows` is the invariant of the session: a running session has a chronicle, and `Account`
      holds of its driver and engine.
-/

namespace Loopback.Session

/-- What happened since the latest start that succeeded. -/
structure Chronicle where
  /-- Time that was pumped, in nanoseconds. -/
  time : Nat := 0
  /-- The total of the callback counts that the pumps returned. -/
  callbacks : Nat := 0
  /-- The blocks of each callback. -/
  periods : List Period := []
  /-- Whether the loop mode was on throughout. -/
  looping : Bool

/-- The chronicle after an action.  A start that succeeds begins a new one; a pump of a running
    session appends its callbacks. -/
def chronicleAfter (s : Session OfflineLink) (chronicle : Option Chronicle) :
    Action → Option Chronicle
  | .start now =>
    match (s.start now).result with
    | .ok () => some { looping := s.loopMode }
    | .error _ => chronicle
  | .loopMode on => chronicle.map fun c => { c with looping := c.looping && on }
  | .pump elapsed =>
    match s.driver with
    | none => chronicle
    | some d =>
      if s.isRunning then
        chronicle.map fun c =>
          { c with
            time := c.time + elapsed
            callbacks := c.callbacks + ((s.pump elapsed).result.toOption).getD 0
            periods := c.periods ++ d.duePeriods s.engine elapsed }
      else chronicle
  | .loadClip _ | .loadFile _ _ | .stop _ | .exportTo _ _ _ _ => chronicle

/-- A session with the tape and the chronicle of its latest run. -/
structure Chronicled extends Taped where
  chronicle : Option Chronicle := none

namespace Chronicled

def perform (t : Chronicled) (a : Action) : Chronicled :=
  { toTaped := t.toTaped.perform a, chronicle := t.session.chronicleAfter t.chronicle a }

def run (t : Chronicled) (actions : List Action) : Chronicled := actions.foldl perform t

end Chronicled

/-! ### The state of a run -/

/-- The driver and the engine are where the chronicle says, and the input on the tape consists of
    the blocks passed to the engine. -/
structure Account (c : Chronicle) (tape : Tape) (d : OfflineDriver) (e : Engine) : Prop where
  pending_eq : d.pending = c.time % offlinePeriod
  callbacks_eq : c.callbacks = c.time / offlinePeriod
  length_periods : c.periods.length = c.callbacks
  echoes : d.Echoes c.periods
  heard_eq : tape.heard.flatten = c.periods.flatMap (·.heard)
  clip_ne : e.clip ≠ none
  recordedFrames_eq :
    e.monitor.recordedFrames = c.callbacks * framesPerPeriod d.link.input.rate
  looping : c.looping = true → e.monitor.loopMode = true
    ∧ e.monitor.playedFrames = c.callbacks * framesPerPeriod d.link.output.rate

section

variable {c : Chronicle} {tape : Tape} {d : OfflineDriver} {e : Engine}

/-- A start resets everything. -/
theorem account_start (looping : Bool) (d : OfflineDriver) (hclip : e.clip ≠ none)
    (hrecorded : e.monitor.recordedFrames = 0) (hplayed : e.monitor.playedFrames = 0)
    (hloop : looping = true → e.monitor.loopMode = true) :
    Account { looping } {} d.reset e where
  pending_eq := rfl
  callbacks_eq := (Nat.zero_div offlinePeriod).symm
  length_periods := rfl
  echoes := OfflineDriver.echoes_reset d
  heard_eq := rfl
  clip_ne := hclip
  recordedFrames_eq := by rw [hrecorded, Nat.zero_mul]
  looping h := ⟨hloop h, by rw [hplayed, Nat.zero_mul]⟩

/-- Only the counters and the loop mode of an engine with a clip matter. -/
theorem Account.of_eq (h : Account c tape d e) {e' : Engine} (hclip : e'.clip ≠ none)
    (hloop : e'.monitor.loopMode = e.monitor.loopMode)
    (hplayed : e'.monitor.playedFrames = e.monitor.playedFrames)
    (hrecorded : e'.monitor.recordedFrames = e.monitor.recordedFrames) :
    Account c tape d e' :=
  { h with
    clip_ne := hclip
    recordedFrames_eq := by rw [hrecorded, h.recordedFrames_eq]
    looping := by rw [hloop, hplayed]; exact h.looping }

theorem Account.setLoopMode (h : Account c tape d e) (on : Bool) :
    Account { c with looping := c.looping && on } tape d (e.setLoopMode on) :=
  { h with
    clip_ne := h.clip_ne
    recordedFrames_eq := h.recordedFrames_eq
    looping := by
      intro hboth
      obtain ⟨hlooping, hon⟩ := Bool.and_eq_true_iff.mp hboth
      exact ⟨hon, (h.looping hlooping).2⟩ }

/-- Letting time pass preserves it. -/
theorem Account.run (h : Account c tape d e) (hin : 0 < d.link.input.channels)
    (hout : 0 < d.link.output.channels) (elapsed : Nat) :
    Account
      { c with
        time := c.time + elapsed
        callbacks := c.callbacks + (d.pending + elapsed) / offlinePeriod
        periods := c.periods ++ d.duePeriods e elapsed }
      (tape ++ d.tape e elapsed) (d.run e elapsed).1 (d.run e elapsed).2.1 := by
  have hcounted := OfflineDriver.counted_run hin hout e elapsed
  have hlink := OfflineDriver.link_run hin hout e elapsed
  exact
    { pending_eq := by
        rw [OfflineDriver.run_eq hin hout, h.pending_eq, Nat.mod_add_mod]
      callbacks_eq := by
        rw [h.callbacks_eq, h.pending_eq, OfflineDriver.div_add_div_of_rest]
      length_periods := by
        rw [List.length_append, h.length_periods, OfflineDriver.length_duePeriods hin hout]
      echoes := h.echoes.run hin hout e elapsed
      heard_eq := by
        rw [Tape.heard_append, List.flatten_append, List.flatMap_append, h.heard_eq,
          OfflineDriver.flatten_heard_tape hin hout]
      clip_ne := by
        rw [hcounted.clip_eq]
        exact h.clip_ne
      recordedFrames_eq := by
        rw [hcounted.recordedFrames_eq, h.recordedFrames_eq, hlink, Nat.add_mul]
      looping := by
        intro hlooping
        -- a loop mode that was on throughout was on in these callbacks, too
        obtain ⟨hloop, hplayed⟩ := h.looping hlooping
        rw [hcounted.loopMode_eq, hcounted.playedFrames_eq h.clip_ne hloop, hplayed, hlink,
          Nat.add_mul]
        exact ⟨hloop, rfl⟩ }

end

/-! ### Pumping -/

/-- A pump of a running session lets time pass on the driver, and returns the number of callbacks.
    -/
theorem pump_of_run {s : Session OfflineLink} {d d' : OfflineDriver} (hd : s.driver = some d)
    (hrunning : s.isRunning = true) {elapsed callbacks : Nat} {e' : Engine}
    (hrun : d.run s.engine elapsed = (d', e', some callbacks)) :
    s.pump elapsed
      = { session := { s with engine := e', driver := some d' }
          entries := s.lockEntries "LoopbackSession::pump_offline"
          result := .ok callbacks } := by
  simp only [pump, hd, hrunning, hrun, Bool.not_true, Bool.false_eq_true, if_false]

/-! ### The invariant -/

/-- The session is where the chronicle says, if there is one. -/
structure Follows (link : OfflineLink) (seconds : Nat) (tape : Tape)
    (chronicle : Option Chronicle) (s : Session OfflineLink) : Prop where
  keeps : Keeps link seconds tape s
  /-- After a start that succeeded, the engine has recordings. -/
  shown : chronicle ≠ none → s.engine.Keeps link.output link.input seconds tape
  clip_ne : s.clip ≠ none → s.engine.clip ≠ none
  /-- The link can refuse the first start only. -/
  refusal : s.link.failNextStart ≠ none → chronicle = none
  running : s.isRunning = true → chronicle ≠ none
  account : ∀ c, chronicle = some c → ∃ d, s.driver = some d ∧ Account c tape d s.engine

theorem follows_offline (options : Options) (loopMode logTimings : Bool) (link : OfflineLink) :
    Follows link options.maxRecordSeconds {} none (offline options loopMode logTimings link) where
  keeps := keeps_offline options loopMode logTimings link
  shown h := absurd rfl h
  clip_ne h := absurd rfl h
  refusal _ := rfl
  running h := by simp [offline, isRunning, Engine.new, Engine.setLoopMode] at h
  account _ h := by simp at h

section

variable {link : OfflineLink} {seconds : Nat} {tape : Tape} {chronicle : Option Chronicle}
  {s : Session OfflineLink}

theorem Follows.install (h : Follows link seconds tape chronicle s) (a : Audio)
    (source : Option String) :
    Follows link seconds tape chronicle (s.install a source).session := by
  have hkeeps := h.keeps.install a source
  unfold Session.install at hkeeps ⊢
  cases hload : s.engine.load a with
  | error err => exact h
  | ok e =>
    rw [hload] at hkeeps
    obtain ⟨clip, -, rfl⟩ := Engine.load_of_ok hload
    exact
      { keeps := hkeeps
        shown := fun hstarted => (h.shown hstarted).of_eq rfl rfl rfl rfl
        clip_ne := fun _ => by simp
        refusal := h.refusal
        running := h.running
        account := by
          intro c hc
          obtain ⟨d, hd, haccount⟩ := h.account c hc
          exact ⟨d, hd, haccount.of_eq (by simp) rfl rfl rfl⟩ }

theorem Follows.loadFile (h : Follows link seconds tape chronicle s) (files : FileTree)
    (path : String) : Follows link seconds tape chronicle (s.loadFile files path).session := by
  unfold Session.loadFile
  cases Wav.read files path with
  | error err => exact h
  | ok a => exact h.install a (some path)

theorem Follows.setLoopMode (h : Follows link seconds tape chronicle s) (hlink : Audible link)
    (on : Bool) :
    Follows link seconds tape (s.chronicleAfter chronicle (.loopMode on)) (s.setLoopMode on) where
  keeps := h.keeps.after hlink (.loopMode on)
  shown hstarted := (h.shown (by simpa [chronicleAfter] using hstarted)).of_eq rfl rfl rfl rfl
  clip_ne := h.clip_ne
  refusal hrefusal := by rw [chronicleAfter, h.refusal hrefusal, Option.map_none]
  running hrunning := by simpa [chronicleAfter] using h.running hrunning
  account c hc := by
    obtain ⟨c', hc', rfl⟩ := Option.map_eq_some_iff.mp hc
    obtain ⟨d, hd, haccount⟩ := h.account c' hc'
    exact ⟨d, hd, haccount.setLoopMode on⟩

/-- A start that is refused leaves the chronicle alone.  If it is the link that refuses, there is
    none. -/
theorem Follows.start (h : Follows link seconds tape chronicle s) (hlink : Audible link)
    (now : Nat) :
    Follows link seconds (s.tapeAfter tape (.start now)) (s.chronicleAfter chronicle (.start now))
      (s.start now).session := by
  have hkeeps := h.keeps.start hlink now
  by_cases hnone : s.clip.isNone = true
  · simp only [tapeAfter, chronicleAfter, Session.start, hnone, Bool.true_or, if_true]
    exact h
  · by_cases hrunning : s.isRunning = true
    · simp only [tapeAfter, chronicleAfter, Session.start, hnone, hrunning, Bool.or_true, if_true,
        Bool.false_eq_true, if_false]
      exact h
    · have hclip : s.engine.clip ≠ none := h.clip_ne (by simpa using hnone)
      obtain ⟨d, hd, -, -⟩ := h.keeps.driver
      simp only [tapeAfter, chronicleAfter, Session.start, hnone, hrunning, Bool.or_self,
        Bool.false_eq_true, if_false, Engine.start, Link.start, OfflineLink.start,
        Link.outputFormat, Link.inputFormat] at hkeeps ⊢
      cases hrefusal : s.link.failNextStart with
      | some reason =>
        -- this is the first start that gets as far as the link
        have hnever : chronicle = none := h.refusal (by simp [hrefusal])
        rw [hrefusal] at hkeeps
        exact
          { keeps := hkeeps
            shown := fun hstarted => absurd hnever hstarted
            clip_ne := fun _ => hclip
            refusal := fun _ => hnever
            running := fun hstarted => absurd hstarted hrunning
            account := by
              intro c hc
              exact absurd (hnever.symm.trans hc) (by simp) }
      | none =>
        rw [hrefusal] at hkeeps
        exact
          { keeps := hkeeps
            shown := fun _ => hkeeps.engine_of_running rfl
            clip_ne := fun _ => hclip
            refusal := fun hrefused => absurd hrefusal hrefused
            running := fun _ => by simp
            account := by
              intro c hc
              obtain rfl := Option.some.inj hc
              refine ⟨d.reset, by rw [hd]; rfl, ?_⟩
              exact account_start _ d hclip rfl rfl fun hloop => hloop }

theorem Follows.pump (h : Follows link seconds tape chronicle s) (hlink : Audible link)
    (elapsed : Nat) :
    Follows link seconds (s.tapeAfter tape (.pump elapsed))
      (s.chronicleAfter chronicle (.pump elapsed)) (s.pump elapsed).session := by
  have hkeeps := h.keeps.pump hlink elapsed
  obtain ⟨d, hd, hdoutput, hdinput⟩ := h.keeps.driver
  have hin : 0 < d.link.input.channels := by
    rw [hdinput]
    exact hlink.input_pos
  have hout : 0 < d.link.output.channels := by
    rw [hdoutput]
    exact hlink.output_pos
  by_cases hrunning : s.isRunning = true
  · have hcounted := OfflineDriver.counted_run hin hout s.engine elapsed
    have hrun : d.run s.engine elapsed
        = ((d.run s.engine elapsed).1, (d.run s.engine elapsed).2.1,
            some ((d.pending + elapsed) / offlinePeriod)) := by
      rw [OfflineDriver.run_eq hin hout]
    have hpump := pump_of_run hd hrunning hrun
    simp only [tapeAfter, chronicleAfter, hd, hrunning, if_true, hpump] at hkeeps ⊢
    have hstill := (OfflineDriver.running_run hin hout s.engine elapsed).trans hrunning
    exact
      { keeps := hkeeps
        shown := fun _ => hkeeps.engine_of_running hstill
        clip_ne := by
          intro hclip
          rw [hcounted.clip_eq]
          exact h.clip_ne hclip
        refusal := by
          intro hrefusal
          rw [h.refusal hrefusal, Option.map_none]
        running := by
          intro _
          simpa using h.running hrunning
        account := by
          intro c hc
          obtain ⟨c', hc', rfl⟩ := Option.map_eq_some_iff.mp hc
          obtain ⟨d', hd', haccount⟩ := h.account c' hc'
          obtain rfl := Option.some.inj (hd.symm.trans hd')
          exact ⟨_, rfl, haccount.run hin hout elapsed⟩ }
  · simp only [tapeAfter, chronicleAfter, Session.pump, hd, hrunning, Bool.not_false,
      Bool.false_eq_true, if_true, if_false]
    exact h

theorem Follows.stop (h : Follows link seconds tape chronicle s) (now : Nat) :
    Follows link seconds tape chronicle (s.stop now).session := by
  have hkeeps := h.keeps.stop now
  by_cases hrunning : s.isRunning = true
  · simp only [Session.stop, hrunning, Bool.not_true, Bool.false_eq_true, if_false] at hkeeps ⊢
    exact
      { keeps := hkeeps
        shown := fun hstarted => (h.shown hstarted).of_eq rfl rfl rfl rfl
        clip_ne := h.clip_ne
        refusal := h.refusal
        running := fun _ => h.running hrunning
        account := by
          intro c hc
          obtain ⟨d, hd, haccount⟩ := h.account c hc
          exact ⟨d, hd, haccount.of_eq haccount.clip_ne rfl rfl rfl⟩ }
  · simp only [Session.stop, hrunning, Bool.not_false, if_true]
    exact h

theorem Follows.exportTo (h : Follows link seconds tape chronicle s) (files : FileTree)
    (kind : RecordingKind) (dir : String) (now : Nat) :
    Follows link seconds tape chronicle (s.exportTo files kind dir now).2.session := by
  have hkeeps := h.keeps.exportTo files kind dir now
  rcases s.exportTo_session files kind dir now with heq | ⟨heq, -⟩
  · rw [heq]
    exact h
  · rw [heq] at hkeeps ⊢
    exact ⟨hkeeps, h.shown, h.clip_ne, h.refusal, h.running, h.account⟩

/-- Every action preserves the invariant. -/
theorem Follows.after (h : Follows link seconds tape chronicle s) (hlink : Audible link)
    (a : Action) :
    Follows link seconds (s.tapeAfter tape a) (s.chronicleAfter chronicle a) (s.after a) := by
  cases a with
  | loadClip a => exact h.install a none
  | loadFile files path => exact h.loadFile files path
  | loopMode on => exact h.setLoopMode hlink on
  | start now => exact h.start hlink now
  | pump elapsed => exact h.pump hlink elapsed
  | stop now => exact h.stop now
  | exportTo files kind dir now => exact h.exportTo files kind dir now

theorem Follows.run {t : Chronicled} (h : Follows link seconds t.tape t.chronicle t.session)
    (hlink : Audible link) (actions : List Action) :
    Follows link seconds (t.run actions).tape (t.run actions).chronicle
      (t.run actions).session := by
  induction actions generalizing t with
  | nil => exact h
  | cons a actions ih => exact ih (h.after hlink a)

/-- The driver of a chronicle runs over the formats of the link. -/
theorem Follows.driver (h : Follows link seconds tape chronicle s) {c : Chronicle}
    (hc : chronicle = some c) :
    ∃ d, s.driver = some d ∧ d.link.output = link.output ∧ d.link.input = link.input
      ∧ Account c tape d s.engine := by
  obtain ⟨d, hd, haccount⟩ := h.account c hc
  obtain ⟨d', hd', hdoutput, hdinput⟩ := h.keeps.driver
  obtain rfl := Option.some.inj (hd.symm.trans hd')
  exact ⟨d, hd, hdoutput, hdinput, haccount⟩

end

/-! ### An example run -/

/-- A link on which a period has three frames out and two in. -/
def unevenLink : OfflineLink :=
  { output := { rate := 300, channels := 2 }, input := { rate := 250, channels := 1 } }

/-- A clip of two frames, and time for two callbacks and a half. -/
def unevenPumps : List Action :=
  [.loadClip { samples := #[.one, .negOne], frameCount := 2, channels := 1, rate := 300 },
    .start 0,
    .pump 4000000,
    .pump 21000000]

end Loopback.Session
