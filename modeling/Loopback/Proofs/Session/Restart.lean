import Loopback.Proofs.Engine.Restart
import Loopback.Proofs.Session.Coherence

/-! # A start forgets

    After an offline session has started, its history has no effect any more, except for the clip
    and the loop mode.

    * `answers` is everything that a sequence of operations returns: the result of each of them, and
      the visible state of the session afterwards.
    * `OpenedOver` is what a session never changes: its options and the formats of its link.
    * `Alike` relates two sessions that differ only in what a start leaves of their histories.  One
      operation gives the same answer on both and leaves them alike (`Alike.after`), so any sequence
      of operations does (`Alike.answers_eq`).
    * `StartsForget` is the law, for sessions and for engines.
-/

namespace Loopback

namespace Session

/-! ### Answers -/

/-- The result of an operation; an export also gives the files afterwards. -/
inductive Reply where
  | loaded (result : Except (Failure SessionError) ClipInfo)
  | switched
  | done (result : Except (Failure SessionError) Unit)
  | pumped (result : Except (Failure SessionError) Nat)
  | exported (files : FileTree) (result : Except (Failure SessionError) ExportedWav)

/-- The visible state of a session: its status and both recordings, with their formats. -/
structure View where
  status : Status
  played : Option (Recording × StreamFormat)
  recorded : Option (Recording × StreamFormat)

section

variable {σ : Type}

def view (s : Session σ) : View :=
  { status := s.status
    played := s.recording? .played
    recorded := s.recording? .recorded }

variable [Link σ]

def reply (s : Session σ) : Action → Reply
  | .loadClip a => .loaded (s.loadClip a).result
  | .loadFile files path => .loaded (s.loadFile files path).result
  | .loopMode _ => .switched
  | .start now => .done (s.start now).result
  | .pump elapsed => .pumped (s.pump elapsed).result
  | .stop now => .done (s.stop now).result
  | .exportTo files kind dir now =>
    .exported (s.exportTo files kind dir now).1 (s.exportTo files kind dir now).2.result

/-- The results of a sequence of operations, each with the visible state afterwards. -/
def answers (s : Session σ) : List Action → List (Reply × View)
  | [] => []
  | a :: actions => (s.reply a, (s.after a).view) :: (s.after a).answers actions

end

/-! ### Invariants of a session -/

/-- The session has the options and the formats that it was opened with. -/
structure OpenedOver (options : Options) (link : OfflineLink) (s : Session OfflineLink) :
    Prop where
  options_eq : s.engine.options = options
  output_eq : s.link.output = link.output
  input_eq : s.link.input = link.input
  driver : ∃ d, s.driver = some d ∧ d.link.output = link.output ∧ d.link.input = link.input

/-- A start leaves the formats of a simulated link alone, whether or not it is refused. -/
theorem formats_of_start {link after : OfflineLink} {result : Except StreamError Unit}
    (h : Link.start link = (after, result)) :
    after.output = link.output ∧ after.input = link.input := by
  have hstart : link.start = (after, result) := h
  unfold OfflineLink.start at hstart
  split at hstart
  · cases hstart
    exact ⟨rfl, rfl⟩
  · cases hstart
    exact ⟨rfl, rfl⟩

section

variable {options : Options} {link : OfflineLink} {s : Session OfflineLink}

theorem OpenedOver.install (h : OpenedOver options link s) (a : Audio) (source : Option String) :
    OpenedOver options link (s.install a source).session := by
  rcases s.install_cases a source with ⟨err, -, heq, -⟩ | ⟨engine, hload, heq, -⟩
  · rw [heq]
    exact h
  · obtain ⟨clip, -, rfl⟩ := Engine.load_of_ok hload
    rw [heq]
    exact ⟨h.options_eq, h.output_eq, h.input_eq, h.driver⟩

theorem OpenedOver.start (h : OpenedOver options link s) (now : Nat) :
    OpenedOver options link (s.start now).session := by
  rcases s.refused_or_admitted with hrefused | ⟨hclip, hstopped⟩
  · rw [s.start_of_refused hrefused]
    exact h
  · rcases hlink : Link.start s.link with ⟨after, err | _⟩
    · obtain ⟨houtput, hinput⟩ := formats_of_start hlink
      rw [(start_of_error hclip hstopped hlink now).1]
      exact ⟨h.options_eq, houtput.trans h.output_eq, hinput.trans h.input_eq, h.driver⟩
    · obtain ⟨houtput, hinput⟩ := formats_of_start hlink
      obtain ⟨d, hd, hformats⟩ := h.driver
      rw [(start_of_success hclip hstopped hlink now).1]
      refine ⟨h.options_eq, houtput.trans h.output_eq, hinput.trans h.input_eq, d.reset, ?_,
        hformats⟩
      exact congrArg (Option.map (·.reset)) hd

theorem OpenedOver.pump (h : OpenedOver options link s) (elapsed : Nat) :
    OpenedOver options link (s.pump elapsed).session := by
  rcases s.idle_or_driven with hidle | ⟨d, hd, hruns⟩
  · rw [pump_of_idle hidle]
    exact h
  · obtain ⟨⟨poisoned, heq⟩, -⟩ := pump_of_driven hd hruns elapsed
    obtain ⟨hoptions, -⟩ :=
      d.run_kept (Engine.keptByCallbacks_controls s.engine.options s.engine.clip s.isRunning)
        ⟨rfl, rfl, rfl⟩ elapsed
    obtain ⟨d', hd', hformats⟩ := h.driver
    obtain rfl := Option.some.inj (hd.symm.trans hd')
    rw [heq]
    refine ⟨hoptions.trans h.options_eq, h.output_eq, h.input_eq, _, rfl, ?_⟩
    rw [d.link_run_eq]
    exact hformats

theorem OpenedOver.stop (h : OpenedOver options link s) (now : Nat) :
    OpenedOver options link (s.stop now).session := by
  cases hruns : s.isRunning with
  | false =>
    rw [s.stop_of_stopped hruns]
    exact h
  | true =>
    rw [(s.stop_of_running hruns now).1]
    exact ⟨h.options_eq, h.output_eq, h.input_eq, h.driver⟩

theorem OpenedOver.after (h : OpenedOver options link s) (a : Action) :
    OpenedOver options link (s.after a) := by
  cases hasks : a.asksLink with
  | true =>
    cases a with
    | start now => exact h.start now
    | stop now => exact h.stop now
    | _ => cases hasks
  | false =>
    exact after_kept h h.install
      (fun _ => ⟨h.options_eq, h.output_eq, h.input_eq, h.driver⟩) h.pump
      ⟨h.options_eq, h.output_eq, h.input_eq, h.driver⟩ hasks

theorem OpenedOver.afterAll (h : OpenedOver options link s) (actions : List Action) :
    OpenedOver options link (s.afterAll actions) := by
  induction actions generalizing s with
  | nil => exact h
  | cons a actions ih => exact ih (h.after a)

end

/-! ### Indistinguishable sessions -/

/-- Two offline sessions that differ only in the number of resets of their engines, in how the links
    of their drivers would answer a start, and in the files that their clips came from. -/
structure Alike (s s' : Session OfflineLink) : Prop where
  agrees : ∃ latest, Agrees latest s
  engine_eq : ∃ generation, s'.engine = s.engine.renumber generation
  link_eq : s'.link = s.link
  driver_eq : ∃ refusal, s'.driver = s.driver.map (·.refusing refusal)
  frames_eq : s'.clip.map (·.frameCount) = s.clip.map (·.frameCount)

section

variable {s s' : Session OfflineLink}

theorem Alike.running_eq (h : Alike s s') : s'.isRunning = s.isRunning := by
  obtain ⟨generation, hengine⟩ := h.engine_eq
  rw [isRunning, hengine]
  rfl

theorem Alike.recording_eq (h : Alike s s') (kind : RecordingKind) :
    s'.recording? kind = s.recording? kind := by
  obtain ⟨generation, hengine⟩ := h.engine_eq
  unfold recording?
  rw [hengine]
  rfl

theorem Alike.view_eq (h : Alike s s') : s'.view = s.view := by
  obtain ⟨generation, hengine⟩ := h.engine_eq
  have hstatus : s'.status = s.status := by
    unfold status
    rw [hengine, h.frames_eq]
    rfl
  rw [view, view, hstatus, h.recording_eq, h.recording_eq]

/-- Alike sessions both have a clip or both have none. -/
theorem Alike.clip_isNone (h : Alike s s') : s'.clip.isNone = s.clip.isNone := by
  have hframes := congrArg Option.isNone h.frames_eq
  rwa [Option.isNone_map, Option.isNone_map] at hframes

/-! ### One operation -/

theorem Alike.install (h : Alike s s') (a : Audio) (source : Option String) :
    (s'.install a source).result = (s.install a source).result
      ∧ Alike (s.install a source).session (s'.install a source).session := by
  obtain ⟨latest, hagrees⟩ := h.agrees
  have hagrees' := hagrees.install a source
  obtain ⟨generation, hengine⟩ := h.engine_eq
  have hload : s'.engine.load a = (s.engine.load a).map (·.renumber generation) := by
    rw [hengine, Engine.load_renumber]
  -- an engine takes audio or refuses it, however often its board was reset
  unfold Session.install at hagrees' ⊢
  rw [hload]
  cases hloaded : s.engine.load a with
  | error err => exact ⟨rfl, h⟩
  | ok engine =>
    rw [hloaded] at hagrees'
    exact ⟨rfl, ⟨_, hagrees'⟩, ⟨generation, rfl⟩, h.link_eq, h.driver_eq, rfl⟩

theorem Alike.loadFile (h : Alike s s') (files : FileTree) (path : String) :
    (s'.loadFile files path).result = (s.loadFile files path).result
      ∧ Alike (s.loadFile files path).session (s'.loadFile files path).session := by
  unfold Session.loadFile
  cases Wav.read files path with
  | error err => exact ⟨rfl, h⟩
  | ok a => exact h.install a (some path)

/-- The links are the same, so both start or both refuse. -/
theorem Alike.start (h : Alike s s') (now : Nat) :
    (s'.start now).result = (s.start now).result
      ∧ Alike (s.start now).session (s'.start now).session := by
  obtain ⟨latest, hagrees⟩ := h.agrees
  have hagrees' := hagrees.start now
  have hclip' := h.clip_isNone
  have hrunning' := h.running_eq
  rcases s.refused_or_admitted with hrefused | ⟨hclip, hstopped⟩
  · -- both are refused, and for the same reason
    have hrefused' : s'.clip = none ∨ s'.isRunning = true := by
      rw [hrunning', ← Option.isNone_iff_eq_none, hclip', Option.isNone_iff_eq_none]
      exact hrefused
    rw [s.start_of_refused hrefused, s'.start_of_refused hrefused', refusal, refusal, hclip']
    exact ⟨rfl, h⟩
  · have hsome : s'.clip ≠ none := by
      rw [ne_eq, ← Option.isNone_iff_eq_none, hclip', Option.isNone_iff_eq_none]
      exact hclip
    have hstopped' : s'.isRunning = false := hrunning'.trans hstopped
    obtain ⟨generation, hengine⟩ := h.engine_eq
    obtain ⟨refusal, hdriver⟩ := h.driver_eq
    rcases hlink : Link.start s.link with ⟨link, err | _⟩
    · have hlink' : Link.start s'.link = (link, .error err) := by rw [h.link_eq, hlink]
      obtain ⟨heq, hresult⟩ := start_of_error hclip hstopped hlink now
      obtain ⟨heq', hresult'⟩ := start_of_error hsome hstopped' hlink' now
      rw [heq] at hagrees' ⊢
      rw [heq', hresult, hresult']
      refine ⟨rfl, ⟨_, hagrees'⟩, ⟨generation + 1, ?_⟩, rfl, h.driver_eq, h.frames_eq⟩
      show s'.engine.prepare _ _ = _
      rw [h.link_eq, hengine]
      rfl
    · have hlink' : Link.start s'.link = (link, .ok ()) := by rw [h.link_eq, hlink]
      obtain ⟨heq, hresult⟩ := start_of_success hclip hstopped hlink now
      obtain ⟨heq', hresult'⟩ := start_of_success hsome hstopped' hlink' now
      rw [heq] at hagrees' ⊢
      rw [heq', hresult, hresult']
      refine ⟨rfl, ⟨_, hagrees'⟩, ⟨generation + 1, ?_⟩, rfl, ⟨refusal, ?_⟩, h.frames_eq⟩
      · show (s'.engine.prepare _ _).setRunning true = _
        rw [h.link_eq, hengine]
        rfl
      · show s'.driver.map _ = (s.driver.map _).map _
        rw [hdriver, Option.map_map, Option.map_map]
        rfl

theorem Alike.stop (h : Alike s s') (now : Nat) :
    (s'.stop now).result = (s.stop now).result
      ∧ Alike (s.stop now).session (s'.stop now).session := by
  obtain ⟨latest, hagrees⟩ := h.agrees
  have hagrees' := hagrees.stop now
  obtain ⟨generation, hengine⟩ := h.engine_eq
  cases hruns : s.isRunning with
  | false =>
    have hruns' : s'.isRunning = false := h.running_eq.trans hruns
    rw [s.stop_of_stopped hruns, s'.stop_of_stopped hruns']
    exact ⟨rfl, h⟩
  | true =>
    have hruns' : s'.isRunning = true := h.running_eq.trans hruns
    obtain ⟨heq, hresult⟩ := s.stop_of_running hruns now
    obtain ⟨heq', hresult'⟩ := s'.stop_of_running hruns' now
    rw [heq] at hagrees' ⊢
    rw [heq', hresult, hresult', h.link_eq]
    refine ⟨rfl, ⟨_, hagrees'⟩, ⟨generation, ?_⟩, rfl, h.driver_eq, h.frames_eq⟩
    show s'.engine.setRunning false = _
    rw [hengine]
    rfl

/-- Callbacks do not depend on the difference. -/
theorem Alike.pump (h : Alike s s') (elapsed : Nat) :
    (s'.pump elapsed).result = (s.pump elapsed).result
      ∧ Alike (s.pump elapsed).session (s'.pump elapsed).session := by
  obtain ⟨latest, hagrees⟩ := h.agrees
  have hagrees' := hagrees.pump elapsed
  obtain ⟨generation, hengine⟩ := h.engine_eq
  obtain ⟨refusal, hdriver⟩ := h.driver_eq
  rcases s.idle_or_driven with hidle | ⟨d, hd, hruns⟩
  · -- where nothing is driven on one side, nothing is driven on the other one
    have hidle' : s'.driver = none ∨ s'.isRunning = false := by
      rcases hidle with hnone | hstopped
      · rw [hnone] at hdriver
        exact Or.inl hdriver
      · exact Or.inr (h.running_eq.trans hstopped)
    rw [pump_of_idle hidle, pump_of_idle hidle']
    exact ⟨rfl, h⟩
  · have hd' : s'.driver = some (d.refusing refusal) := by
      rw [hdriver, hd]
      rfl
    obtain ⟨⟨poisoned, heq⟩, hresult⟩ := pump_of_driven hd hruns elapsed
    obtain ⟨⟨poisoned', heq'⟩, hresult'⟩ :=
      pump_of_driven hd' (h.running_eq.trans hruns) elapsed
    obtain ⟨engine, hrun, -, generation', hkept⟩ :=
      OfflineDriver.run_related (Engine.hiddenFromCalls_renumbered latest) d refusal
        ⟨hagrees.engine, generation, hengine⟩ elapsed
    rw [hrun] at heq' hresult'
    rw [heq] at hagrees' ⊢
    rw [heq', hresult, hresult']
    exact ⟨rfl, ⟨_, hagrees'⟩, ⟨generation', hkept⟩, h.link_eq, ⟨refusal, rfl⟩, h.frames_eq⟩

theorem Alike.exportTo (h : Alike s s') (files : FileTree) (kind : RecordingKind) (dir : String)
    (now : Nat) :
    (s'.exportTo files kind dir now).1 = (s.exportTo files kind dir now).1
      ∧ (s'.exportTo files kind dir now).2.result = (s.exportTo files kind dir now).2.result
      ∧ Alike (s.exportTo files kind dir now).2.session
        (s'.exportTo files kind dir now).2.session := by
  obtain ⟨hfiles, hresult, broken, heq, heq'⟩ :=
    s.exportTo_congr s' h.running_eq (h.recording_eq kind) files dir now
  refine ⟨hfiles, hresult, ?_⟩
  obtain ⟨latest, hagrees⟩ := h.agrees
  rw [heq, heq']
  exact ⟨⟨latest, hagrees.engine, hagrees.clip_eq, hagrees.clip_of_running⟩, h.engine_eq,
    h.link_eq, h.driver_eq, h.frames_eq⟩

/-- One operation gives the same answer on both, and leaves them alike. -/
theorem Alike.after (h : Alike s s') (a : Action) :
    s'.reply a = s.reply a ∧ Alike (s.after a) (s'.after a) := by
  cases a with
  | loadClip a =>
    obtain ⟨hresult, halike⟩ := h.install a none
    exact ⟨congrArg Reply.loaded hresult, halike⟩
  | loadFile files path =>
    obtain ⟨hresult, halike⟩ := h.loadFile files path
    exact ⟨congrArg Reply.loaded hresult, halike⟩
  | loopMode on =>
    obtain ⟨latest, hagrees⟩ := h.agrees
    obtain ⟨generation, hengine⟩ := h.engine_eq
    refine ⟨rfl, ⟨latest, hagrees.after (.loopMode on)⟩, ⟨generation, ?_⟩, h.link_eq, h.driver_eq,
      h.frames_eq⟩
    show s'.engine.setLoopMode on = _
    rw [hengine]
    rfl
  | start now =>
    obtain ⟨hresult, halike⟩ := h.start now
    exact ⟨congrArg Reply.done hresult, halike⟩
  | pump elapsed =>
    obtain ⟨hresult, halike⟩ := h.pump elapsed
    exact ⟨congrArg Reply.pumped hresult, halike⟩
  | stop now =>
    obtain ⟨hresult, halike⟩ := h.stop now
    exact ⟨congrArg Reply.done hresult, halike⟩
  | exportTo files kind dir now =>
    obtain ⟨hfiles, hresult, halike⟩ := h.exportTo files kind dir now
    exact ⟨by rw [reply, reply, hfiles, hresult], halike⟩

theorem Alike.answers_eq (h : Alike s s') (actions : List Action) :
    s'.answers actions = s.answers actions := by
  induction actions generalizing s s' with
  | nil => rfl
  | cons a actions ih =>
    obtain ⟨hreply, halike⟩ := h.after a
    rw [answers, answers, hreply, halike.view_eq, ih halike]

end

/-! ### After a start -/

/-- A simulated link that starts has no refusal left. -/
theorem link_of_start_ok {link : OfflineLink} (h : (Link.start link).2 = .ok ()) :
    (Link.start link).1 = { output := link.output, input := link.input } := by
  obtain ⟨output, input, refusal⟩ := link
  cases refusal with
  | some reason => cases h
  | none => rfl

/-- A driver after a reset depends only on its link. -/
theorem reset_eq_refusing {d d' : OfflineDriver} (houtput : d'.link.output = d.link.output)
    (hinput : d'.link.input = d.link.input) :
    d'.reset = d.reset.refusing d'.link.failNextStart := by
  obtain ⟨⟨output, input, refusal⟩, pending, lastOutput⟩ := d'
  dsimp only at houtput hinput
  subst houtput hinput
  rfl

/-- Sessions with the same options and formats are alike after a start, if they have the same clip
    and the same loop mode. -/
theorem alike_of_starts {options : Options} {link link' : OfflineLink} {s s' : Session OfflineLink}
    {latest latest' : Option (StreamFormat × StreamFormat)} (hopened : OpenedOver options link s)
    (hopened' : OpenedOver options link' s') (hagrees : Agrees latest s)
    (hagrees' : Agrees latest' s') (houtput : link'.output = link.output)
    (hinput : link'.input = link.input) (hclip : s'.engine.clip = s.engine.clip)
    (hloop : s'.loopMode = s.loopMode) {now now' : Nat} (hok : (s.start now).result = .ok ())
    (hok' : (s'.start now').result = .ok ()) :
    Alike (s.start now).session (s'.start now').session := by
  obtain ⟨-, hstopped, hlink⟩ := (s.start_ok_iff now).mp hok
  obtain ⟨-, hstopped', hlink'⟩ := (s'.start_ok_iff now').mp hok'
  have hstarted := hagrees.start now
  obtain ⟨d, hd, hdoutput, hdinput⟩ := hopened.driver
  obtain ⟨d', hd', hdoutput', hdinput'⟩ := hopened'.driver
  have hout : s'.link.output = s.link.output := by
    rw [hopened'.output_eq, hopened.output_eq, houtput]
  have hin : s'.link.input = s.link.input := by
    rw [hopened'.input_eq, hopened.input_eq, hinput]
  rw [s.start_of_ok hok] at hstarted ⊢
  rw [s'.start_of_ok hok']
  -- the engines, then the links, the drivers and what is known of the clips
  refine ⟨⟨_, hstarted⟩, ⟨s'.engine.monitor.peaks.generation + 1, ?_⟩, ?_,
    ⟨d'.link.failNextStart, ?_⟩, ?_⟩
  · show (s'.engine.prepare s'.link.output s'.link.input).setRunning true
      = ((s.engine.prepare s.link.output s.link.input).setRunning true).renumber _
    rw [Engine.prepare_eq_readied, Engine.prepare_eq_readied, hout, hin, hclip,
      show s'.engine.monitor.loopMode = s.engine.monitor.loopMode from hloop,
      show s'.engine.monitor.running = false from hstopped',
      show s.engine.monitor.running = false from hstopped,
      hopened'.options_eq, hopened.options_eq]
    rfl
  · show (Link.start s'.link).1 = (Link.start s.link).1
    rw [link_of_start_ok hlink', link_of_start_ok hlink, hout, hin]
  · show s'.driver.map (·.reset) = (s.driver.map (·.reset)).map _
    rw [hd, hd']
    exact congrArg some (reset_eq_refusing (by rw [hdoutput', hdoutput, houtput])
      (by rw [hdinput', hdinput, hinput]))
  · show s'.clip.map (·.frameCount) = s.clip.map (·.frameCount)
    rw [hagrees'.clipFrames_eq, hagrees.clipFrames_eq, hclip]

/-- Every sequence of actions preserves the agreement of a session with its engine. -/
theorem Agrees.afterAll {σ : Type} [Link σ] {latest : Option (StreamFormat × StreamFormat)}
    {s : Session σ} (h : Agrees latest s) (actions : List Action) :
    ∃ latest, Agrees latest (s.afterAll actions) := by
  induction actions generalizing latest s with
  | nil => exact ⟨latest, h⟩
  | cons a actions ih => exact ih (h.after a)

theorem openedOver_offline (options : Options) (loopMode logTimings : Bool) (link : OfflineLink) :
    OpenedOver options link (offline options loopMode logTimings link) :=
  ⟨rfl, rfl, rfl, _, rfl, rfl, rfl⟩

/-- No further operation distinguishes the two sessions. -/
structure Indistinguishable (s s' : Session OfflineLink) : Prop where
  view_eq : s'.view = s.view
  /-- Any sequence of operations gives the same answers on both. -/
  answers_eq : ∀ actions, s'.answers actions = s.answers actions

/-- The law of starts. -/
structure StartsForget : Prop where
  /-- Take two offline sessions with the same configuration, over links of the same formats, after
      any two sequences of operations.  If they have the same clip and the same loop mode and both
      start, they are indistinguishable. -/
  sessions : ∀ (options : Options) (loopMode logTimings : Bool) (link link' : OfflineLink)
      (before before' : List Action) (now now' : Nat),
      link'.output = link.output → link'.input = link.input →
      let s := (offline options loopMode logTimings link).afterAll before
      let s' := (offline options loopMode logTimings link').afterAll before'
      s'.engine.clip = s.engine.clip → s'.loopMode = s.loopMode →
      (s.start now).result = .ok () → (s'.start now').result = .ok () →
      Indistinguishable (s.start now).session (s'.start now').session
  /-- After a start, an engine depends only on its options, its clip, its loop mode and the two
      formats, apart from the number of resets.  A start that fails leaves the same state, except
      that the engine runs only if it ran before. -/
  engine : ∀ {σ : Type} [Link σ] (e : Engine) (link : σ),
    (e.start link).1
      = (Engine.readied e.options e.clip e.monitor.loopMode (Link.outputFormat link)
          (Link.inputFormat link) (e.runsAfter link)).renumber
          (e.monitor.peaks.generation + 1)

/-- **A start forgets all history**, of a session and of an engine. -/
theorem start_forgets_history : StartsForget where
  sessions := by
    intro options loopMode logTimings link link' before before' now now' houtput hinput s s' hclip
      hloop hok hok'
    have hopened := (openedOver_offline options loopMode logTimings link).afterAll before
    have hopened' := (openedOver_offline options loopMode logTimings link').afterAll before'
    obtain ⟨latest, hagrees⟩ := (agrees_offline options loopMode logTimings link).afterAll before
    obtain ⟨latest', hagrees'⟩ :=
      (agrees_offline options loopMode logTimings link').afterAll before'
    have halike := alike_of_starts hopened hopened' hagrees hagrees' houtput hinput hclip hloop hok
      hok'
    exact ⟨halike.view_eq, halike.answers_eq⟩
  engine e link := e.start_eq_readied link

/-- A link on which a period has two frames out and one in, and which refuses its first start. -/
def busyLink : OfflineLink :=
  { output := { rate := 200, channels := 1 }
    input := { rate := 100, channels := 1 }
    failNextStart := some "busy" }

/-- A clip of three frames. -/
def threeFrames : Audio :=
  { samples := #[.one, .half, .negOne], frameCount := 3, channels := 1, rate := 200 }

/-- The first session was refused a start, ran for two periods and a half, was stopped, and had its
    loop mode switched off and on; the second one was only loaded.  After a start, a pump of a
    period and a stop give the same answers on both. -/
theorem worn_session_is_as_new :
    let worn := (offline {} true false busyLink).afterAll
      [.loadClip threeFrames, .start 0, .start 1, .pump 25000000, .stop 2, .loopMode false,
        .loopMode true]
    let new := (offline {} true false { busyLink with failNextStart := none }).afterAll
      [.loadClip threeFrames]
    worn.status.playedFrames = 4 ∧ new.status.playedFrames = 0
      ∧ (worn.start 3).result = .ok () ∧ (new.start 0).result = .ok ()
      ∧ (new.start 0).session.view = (worn.start 3).session.view
      ∧ (new.start 0).session.answers [.pump 12000000, .stop 4]
        = (worn.start 3).session.answers [.pump 12000000, .stop 4] := by
  intro worn new
  have hplayed : worn.status.playedFrames = 4 := by decide +kernel
  have hok : (worn.start 3).result = .ok () := (worn.start_ok_iff 3).mpr (by decide +kernel)
  have hok' : (new.start 0).result = .ok () := rfl
  have hsame :=
    start_forgets_history.sessions {} true false busyLink { busyLink with failNextStart := none }
      [.loadClip threeFrames, .start 0, .start 1, .pump 25000000, .stop 2, .loopMode false,
        .loopMode true]
      [.loadClip threeFrames] 3 0 rfl rfl (by decide +kernel) (by decide +kernel) hok hok'
  exact ⟨hplayed, rfl, hok, hok', hsame.view_eq, hsame.answers_eq _⟩

end Session

end Loopback
