import Loopback.Proofs.Session.Operations

/-! # The life of a session

    A session starts and stops its link, and the link may fail to do either at any time.  Seen from
    the link, the life of a session is a sequence of rounds: a start that succeeds, then one stop.

    * `LoggedLink` is any link with a log of the calls that were made to it; the log does not affect
      the session (`unlogged_after`).
    * `turns` are the starts and stops among these calls, and `rounds` is the order they have.
    * `Alternates` is the invariant: the turns so far are rounds, followed by a start if the session
      runs.
    * `Lifecycle` lists the laws of starting and stopping at any moment.
-/

namespace Loopback

/-- A call of a session to its link, and whether it succeeded. -/
inductive LinkCall where
  | start (ok : Bool)
  | stop (ok : Bool)
deriving DecidableEq, Repr

/-- A link with a log of its calls. -/
structure LoggedLink (σ : Type) where
  link : σ
  /-- The calls so far, oldest first. -/
  calls : List LinkCall := []

instance {σ : Type} [Link σ] : Link (LoggedLink σ) where
  outputFormat l := Link.outputFormat l.link
  inputFormat l := Link.inputFormat l.link
  start l :=
    let (link, result) := Link.start l.link
    ({ link, calls := l.calls ++ [.start result.isOk] }, result)
  stop l :=
    let (link, result) := Link.stop l.link
    ({ link, calls := l.calls ++ [.stop result.isOk] }, result)

/-! ### Rounds -/

/-- The link starts or ends its callbacks. -/
inductive Turn where
  | begins
  | ends
deriving DecidableEq, Repr

/-- A start that fails is no turn; a stop is one whether it fails or not. -/
def LinkCall.turn? : LinkCall → Option Turn
  | start ok => if ok then some .begins else none
  | stop _ => some .ends

def turns (calls : List LinkCall) : List Turn := calls.filterMap LinkCall.turn?

/-- Turns that alternate, a beginning first and an end last. -/
def rounds (n : Nat) : List Turn := (List.replicate n [.begins, .ends]).flatten

theorem turns_append (calls more : List LinkCall) :
    turns (calls ++ more) = turns calls ++ turns more := List.filterMap_append

theorem rounds_succ (n : Nat) : rounds (n + 1) = rounds n ++ [.begins, .ends] := by
  rw [rounds, List.replicate_succ', List.flatten_concat]
  rfl

namespace Session

variable {σ : Type}

/-! ### The log has no effect -/

/-- The session over the link itself. -/
def unlogged (s : Session (LoggedLink σ)) : Session σ :=
  { engine := s.engine
    link := s.link.link
    driver := s.driver
    clip := s.clip
    logTimings := s.logTimings
    startedAt := s.startedAt
    lockPoisoned := s.lockPoisoned }

section

variable (s : Session (LoggedLink σ))

theorem unlogged_pump (elapsed : Nat) :
    (s.pump elapsed).session.unlogged = (s.unlogged.pump elapsed).session := by
  have hdriver : s.unlogged.driver = s.driver := rfl
  have hrunning : s.unlogged.isRunning = s.isRunning := rfl
  have hengine : s.unlogged.engine = s.engine := rfl
  unfold pump
  rw [hdriver, hrunning, hengine]
  cases s.driver with
  | none => rfl
  | some d =>
    by_cases hruns : s.isRunning = true
    · simp only [hruns, Bool.not_true, Bool.false_eq_true, if_false]
      rcases d.run s.engine elapsed with ⟨after, engine, callbacks⟩
      cases callbacks with
      | some callbacks => rfl
      | none => rfl
    · simp only [hruns, Bool.not_false, if_true]
      rfl

theorem unlogged_exportTo (files : FileTree) (kind : RecordingKind) (dir : String) (now : Nat) :
    (s.exportTo files kind dir now).2.session.unlogged
      = (s.unlogged.exportTo files kind dir now).2.session := by
  have hrecording : s.unlogged.recording? kind = s.recording? kind := by cases kind <;> rfl
  obtain ⟨-, -, broken, heq, heq'⟩ := s.exportTo_congr s.unlogged rfl hrecording files dir now
  rw [heq, heq']
  rfl

variable [Link σ]

theorem unlogged_install (a : Audio) (source : Option String) :
    (s.install a source).session.unlogged = (s.unlogged.install a source).session := by
  have hload : s.unlogged.engine.load a = s.engine.load a := rfl
  unfold install
  rw [hload]
  cases s.engine.load a with
  | error err => rfl
  | ok engine => rfl

theorem unlogged_start (now : Nat) :
    (s.start now).session.unlogged = (s.unlogged.start now).session := by
  have hclip : s.unlogged.clip = s.clip := rfl
  have hrunning : s.unlogged.isRunning = s.isRunning := rfl
  have hlink : s.unlogged.link = s.link.link := rfl
  unfold start
  rw [hclip, hrunning]
  by_cases hnone : s.clip.isNone = true
  · simp only [hnone, if_true]
    rfl
  · by_cases hruns : s.isRunning = true
    · simp only [hnone, hruns, if_true, Bool.false_eq_true, if_false]
      rfl
    · simp only [hnone, hruns, Bool.false_eq_true, if_false, Engine.start, Link.start, hlink]
      rcases Link.start s.link.link with ⟨link, result⟩
      cases result with
      | error err => rfl
      | ok _ => rfl

theorem unlogged_stop (now : Nat) :
    (s.stop now).session.unlogged = (s.unlogged.stop now).session := by
  have hrunning : s.unlogged.isRunning = s.isRunning := rfl
  unfold stop
  rw [hrunning]
  by_cases hruns : s.isRunning = true
  · simp only [hruns, Bool.not_true, Bool.false_eq_true, if_false]
    rfl
  · simp only [hruns, Bool.not_false, if_true]
    rfl

/-- A session does the same over a link and over the link with a log. -/
theorem unlogged_after (a : Action) : (s.after a).unlogged = s.unlogged.after a := by
  cases a with
  | loadClip a => exact s.unlogged_install a none
  | loadFile files path =>
    show (s.loadFile files path).session.unlogged = (s.unlogged.loadFile files path).session
    unfold loadFile
    cases Wav.read files path with
    | error err => rfl
    | ok a => exact s.unlogged_install a (some path)
  | loopMode on => rfl
  | start now => exact s.unlogged_start now
  | pump elapsed => exact s.unlogged_pump elapsed
  | stop now => exact s.unlogged_stop now
  | exportTo files kind dir now => exact s.unlogged_exportTo files kind dir now

/-- This holds for any sequence of actions. -/
theorem unlogged_afterAll (actions : List Action) :
    (s.afterAll actions).unlogged = s.unlogged.afterAll actions := by
  induction actions generalizing s with
  | nil => rfl
  | cons a actions ih => rw [afterAll_cons, afterAll_cons, ih, unlogged_after]

end

/-! ### Turns -/

/-- The turns of the link alternate, and the last one is a beginning exactly if the session runs. -/
def Alternates (s : Session (LoggedLink σ)) : Prop :=
  ∃ n, turns s.link.calls = rounds n ++ if s.isRunning then [.begins] else []

theorem alternates_opened (options : Options) (loopMode logTimings : Bool) (link : σ)
    (driver : Option OfflineDriver) :
    Alternates (opened options loopMode logTimings { link : LoggedLink σ } driver) := ⟨0, rfl⟩

section

variable [Link σ] {s : Session (LoggedLink σ)}

/-- A start that the link refuses begins nothing; one that succeeds begins a round. -/
theorem Alternates.start (h : Alternates s) (now : Nat) : Alternates (s.start now).session := by
  obtain ⟨n, hturns⟩ := h
  rcases s.refused_or_admitted with hrefused | ⟨hclip, hstopped⟩
  · rw [s.start_of_refused hrefused]
    exact ⟨n, hturns⟩
  · rw [hstopped] at hturns
    rcases hlink : Link.start s.link with ⟨link, err | _⟩
    · rw [(start_of_error hclip hstopped hlink now).1]
      obtain ⟨rfl, hresult⟩ := Prod.mk.inj hlink
      refine ⟨n, ?_⟩
      -- the log grows by a start that is no turn
      show turns (s.link.calls ++ _) = rounds n ++ if s.isRunning = true then _ else _
      rw [turns_append, hturns, hresult, hstopped, List.append_assoc]
      rfl
    · rw [(start_of_success hclip hstopped hlink now).1]
      obtain ⟨rfl, hresult⟩ := Prod.mk.inj hlink
      refine ⟨n, ?_⟩
      show turns (s.link.calls ++ _) = rounds n ++ [.begins]
      rw [turns_append, hturns, hresult, List.append_assoc]
      rfl

/-- A stop ends the round, whether or not the link fails to stop. -/
theorem Alternates.stop (h : Alternates s) (now : Nat) :
    Alternates (s.stop now).session ∧ (s.stop now).session.isRunning = false := by
  cases hruns : s.isRunning with
  | false =>
    rw [s.stop_of_stopped hruns]
    exact ⟨h, hruns⟩
  | true =>
    rw [(s.stop_of_running hruns now).1]
    obtain ⟨n, hturns⟩ := h
    refine ⟨⟨n + 1, ?_⟩, rfl⟩
    -- the call is logged as an end even if the link fails to stop
    show turns (s.link.calls ++ [.stop _]) = rounds (n + 1) ++ []
    rw [turns_append, hturns, hruns, rounds_succ, List.append_nil, List.append_assoc]
    rfl

theorem Alternates.after (h : Alternates s) (a : Action) : Alternates (s.after a) := by
  cases hasks : a.asksLink with
  | true =>
    cases a with
    | start now => exact h.start now
    | stop now => exact (h.stop now).1
    | _ => cases hasks
  | false =>
    obtain ⟨hlink, hrunning⟩ := after_of_not_asksLink (s := s) hasks
    unfold Alternates
    rw [hlink, hrunning]
    exact h

theorem Alternates.afterAll (h : Alternates s) (actions : List Action) :
    Alternates (s.afterAll actions) := by
  induction actions generalizing s with
  | nil => exact h
  | cons a actions ih => exact ih (h.after a)

end

/-! ### The life of a session -/

/-- The laws of a session and the log of its link at one moment. -/
structure Lifecycle [Link σ] (s : Session (LoggedLink σ)) : Prop where
  /-- A start succeeds exactly if there is a clip, the session does not run and the link starts. -/
  start_ok_iff : ∀ now, (s.start now).result = .ok () ↔
    s.clip ≠ none ∧ s.isRunning = false ∧ (Link.start s.link.link).2 = .ok ()
  /-- After such a start the session runs, and the link has been called once. -/
  start_ok : ∀ now, (s.start now).result = .ok () →
    (s.start now).session.isRunning = true
      ∧ (s.start now).session.link.calls = s.link.calls ++ [.start true]
  /-- Without a clip, or while the session runs, a start is an error without effect: session and log
      are unchanged, and nothing is reported. -/
  start_refused : ∀ now, s.clip = none ∨ s.isRunning = true →
    ∃ err, s.start now = { session := s, entries := [], result := .error (.error err) }
  /-- If the link refuses, the session does not run, and whether the next start succeeds again
      depends on the link only. -/
  start_failed : ∀ now cause, s.clip ≠ none → s.isRunning = false →
    (Link.start s.link.link).2 = .error cause →
    let failed := (s.start now).session
    (s.start now).result = .error (.error (.start cause))
      ∧ failed.isRunning = false
      ∧ failed.link.calls = s.link.calls ++ [.start false]
      ∧ ∀ later, (failed.start later).result = .ok () ↔ (Link.start failed.link.link).2 = .ok ()
  /-- A stop does nothing to a session that does not run, or to its link. -/
  stop_idle : ∀ now, s.isRunning = false →
    s.stop now = { session := s, entries := [], result := .ok () }
  /-- A stop of a running session calls its link once, and the session is stopped whatever the link
      answers. -/
  stop_running : ∀ now, s.isRunning = true →
    (s.stop now).session.isRunning = false
      ∧ (s.stop now).session.link.calls
        = s.link.calls ++ [.stop (Link.stop s.link.link).2.isOk]
      ∧ (s.stop now).result = ((Link.stop s.link.link).2.mapError .stop).mapError .error
  /-- Successful starts and stops alternate, a start first; the latest of them is a start exactly if
      the session runs. -/
  alternates : ∃ n, turns s.link.calls = rounds n ++ if s.isRunning then [.begins] else []
  /-- After the session is dropped, each successful start was followed by one stop. -/
  shutDown : ∀ now, (s.shutDown now).1.isRunning = false
    ∧ ∃ n, turns (s.shutDown now).1.link.calls = rounds n

/-- Only the order of the turns depends on the history of the session. -/
theorem Alternates.lifecycle [Link σ] {s : Session (LoggedLink σ)} (h : Alternates s) :
    Lifecycle s where
  start_ok_iff now := s.start_ok_iff now
  start_ok now hok := by
    obtain ⟨-, -, hlink⟩ := (s.start_ok_iff now).mp hok
    have hresult : (Link.start s.link.link).2 = .ok () := hlink
    rw [s.start_of_ok hok]
    refine ⟨rfl, ?_⟩
    show s.link.calls ++ [.start (Link.start s.link.link).2.isOk] = _
    rw [hresult]
    rfl
  start_refused now hrefused := ⟨_, s.start_of_refused hrefused now⟩
  start_failed now cause hclip hstopped hcause := by
    have hlink : Link.start s.link = ((Link.start s.link).1, .error cause) := Prod.ext rfl hcause
    obtain ⟨heq, hresult⟩ := start_of_error hclip hstopped hlink now
    intro failed
    have hfailed : failed.isRunning = false := by
      rw [show failed = _ from heq]
      exact hstopped
    -- the clip outlasts the failure, so that the next start is up to the link alone
    have hstill : failed.clip ≠ none := by
      rw [show failed = _ from heq]
      exact hclip
    refine ⟨hresult, hfailed, ?_, ?_⟩
    · rw [show failed = _ from heq]
      show s.link.calls ++ [.start (Link.start s.link.link).2.isOk] = _
      rw [hcause]
      rfl
    · intro later
      rw [failed.start_ok_iff later]
      exact ⟨fun h => h.2.2, fun h => ⟨hstill, hfailed, h⟩⟩
  stop_idle now hstopped := s.stop_of_stopped hstopped now
  stop_running now hrunning := by
    obtain ⟨heq, hresult⟩ := s.stop_of_running hrunning now
    rw [heq]
    exact ⟨rfl, rfl, hresult⟩
  alternates := h
  shutDown now := by
    obtain ⟨⟨n, hturns⟩, hstopped⟩ := h.stop now
    rw [hstopped] at hturns
    exact ⟨hstopped, n, hturns.trans (List.append_nil _)⟩

/-- **A session brackets its stream.** For every link, however it fails, and after any sequence of
    operations, the session is the one over the link without a log, and the laws of `Lifecycle`
    hold. -/
theorem brackets_stream [Link σ] (options : Options) (loopMode logTimings : Bool) (link : σ)
    (driver : Option OfflineDriver) (actions : List Action) :
    let s := (opened options loopMode logTimings { link : LoggedLink σ } driver).afterAll actions
    s.unlogged = (opened options loopMode logTimings link driver).afterAll actions
      ∧ Lifecycle s :=
  ⟨unlogged_afterAll _ actions,
    ((alternates_opened options loopMode logTimings link driver).afterAll actions).lifecycle⟩

/-- A link that refuses its first start.  The second start succeeds, the third one is refused
    without asking the link, and of two stops only the first one asks it. -/
example :
    ((opened {} true false
        { link := { output := offlineOutputFormat
                    input := offlineInputFormat
                    failNextStart := some "busy" } : LoggedLink OfflineLink } none).afterAll
      [.loadClip { samples := #[.one], frameCount := 1, channels := 1, rate := 8000 },
        .start 0, .start 1, .start 2, .stop 3, .stop 4]).link.calls
      = [.start false, .start true, .stop true] := rfl

end Session

end Loopback
