import Loopback.Proofs.Callback.Exchange
import Loopback.Proofs.DevicePair.Steps

/-! # Starts that callbacks interrupt

    A stream may call back as soon as it is built, even before the start that builds it has ended.
    Steps look at the devices, callbacks at the ring and the engine.  So it does not matter between
    which steps the callbacks come: the start ends as if there were none, and the callbacks have the
    effect that they have in sequence.

    * `Duplex` is a pair of devices together with its engine.
    * `Duplex.attempt` interleaves steps and callbacks; `Duplex.start` is a start made of it.
    * `attempt_eq` separates steps and callbacks, and `start_of_none` does so for a start.
-/

namespace Loopback

/-- A pair of devices together with its engine. -/
structure Duplex where
  pair : DevicePair
  engine : Engine

namespace Duplex

/-- Callbacks come only while there are streams. -/
def callback (s : Duplex) : Callback → Duplex
  | .capture data =>
    match s.pair.capture s.engine data with
    | none => s
    | some (pair, engine) => { pair, engine }
  | .render lock length =>
    match s.pair.render s.engine lock length with
    | none => s
    | some (pair, engine, _) => { pair, engine }

def callbacks (s : Duplex) (cs : List Callback) : Duplex := cs.foldl callback s

def noteAll (s : Duplex) (events : List StreamEvent) : Duplex :=
  { s with pair := s.pair.noteAll events }

/-- Takes steps until one fails.  Each step that succeeds is followed by the callbacks paired with
    it. -/
def attempt (s : Duplex) : List (StreamStep × List Callback) → Duplex × Except StreamError Unit
  | [] => (s, .ok ())
  | (step, amid) :: steps =>
    match s.pair.step step with
    | (pair, .error err) => ({ s with pair }, .error err)
    | (pair, .ok ()) => (callbacks { s with pair } amid).attempt steps

/-- The streams of a start get a new ring. -/
def underway (s : Duplex) : Duplex :=
  { s with pair := { s.pair with ring := some s.pair.newRing } }

/-- Starts the streams, unless they run, with callbacks after each step.  If a step fails, the
    streams built so far are closed, and the ring is dropped. -/
def start (s : Duplex) (amid : StreamStep → List Callback) : Duplex × Except StreamError Unit :=
  if s.pair.ring.isSome then (s, .ok ())
  else
    match s.underway.attempt (DevicePair.startSteps.map fun step => (step, amid step)) with
    | (s', .ok ()) => (s', .ok ())
    | (s', .error err) =>
      let closed := s'.noteAll
        ((s.pair.passed DevicePair.startSteps).reverse.flatMap StreamStep.undo)
      ({ closed with pair := { closed.pair with ring := none } }, .error err)

/-! ### Callbacks -/

theorem callback_of_none {s : Duplex} (h : s.pair.ring = none) (c : Callback) :
    s.callback c = s := by
  cases c with
  | capture data => simp only [callback, DevicePair.capture, h, Option.map_none]
  | render lock length => simp only [callback, DevicePair.render, h, Option.map_none]

theorem callback_of_some {s : Duplex} {ring : Ring} (h : s.pair.ring = some ring) (c : Callback) :
    let after := c.exchange s.pair.output.format s.pair.channelCounts s.engine ring
    s.callback c = { pair := { s.pair with ring := some after.2 }, engine := after.1 } := by
  cases c with
  | capture data =>
    simp only [callback, DevicePair.capture, h, Option.map_some, Callback.exchange]
  | render lock length =>
    simp only [callback, DevicePair.render, h, Option.map_some, Callback.exchange]

/-- A callback changes only the ring of a pair. -/
theorem pair_callback (s : Duplex) (c : Callback) :
    ∃ ring, (s.callback c).pair = { s.pair with ring } ∧ ring.isSome = s.pair.ring.isSome := by
  cases hring : s.pair.ring with
  | none => exact ⟨s.pair.ring, by rw [callback_of_none hring], by rw [hring]⟩
  | some ring =>
    exact ⟨some (c.exchange s.pair.output.format s.pair.channelCounts s.engine ring).2,
      congrArg Duplex.pair (callback_of_some hring c), rfl⟩

theorem pair_callbacks (s : Duplex) (cs : List Callback) :
    ∃ ring, (s.callbacks cs).pair = { s.pair with ring } ∧ ring.isSome = s.pair.ring.isSome := by
  induction cs generalizing s with
  | nil => exact ⟨s.pair.ring, rfl, rfl⟩
  | cons c cs ih =>
    obtain ⟨between, hfirst, hkept⟩ := s.pair_callback c
    obtain ⟨ring, hrest, hkept'⟩ := ih (s.callback c)
    rw [hfirst] at hrest hkept'
    exact ⟨ring, hrest, hkept'.trans hkept⟩

theorem callbacks_append (s : Duplex) (cs more : List Callback) :
    s.callbacks (cs ++ more) = (s.callbacks cs).callbacks more := List.foldl_append

theorem callback_noteAll (s : Duplex) (events : List StreamEvent) (c : Callback) :
    (s.noteAll events).callback c = (s.callback c).noteAll events := by
  have hsame : (s.noteAll events).pair.ring = s.pair.ring := rfl
  cases hring : s.pair.ring with
  | none => rw [callback_of_none hring, callback_of_none (hsame.trans hring)]
  | some ring =>
    rw [callback_of_some hring, callback_of_some (hsame.trans hring)]
    rfl

/-- Callbacks do not look at what was noted. -/
theorem callbacks_noteAll (s : Duplex) (events : List StreamEvent) (cs : List Callback) :
    (s.noteAll events).callbacks cs = (s.callbacks cs).noteAll events := by
  induction cs generalizing s with
  | nil => rfl
  | cons c cs ih =>
    show ((s.noteAll events).callback c).callbacks cs = _
    rw [callback_noteAll, ih]
    rfl

theorem noteAll_noteAll (s : Duplex) (events more : List StreamEvent) :
    (s.noteAll events).noteAll more = s.noteAll (events ++ more) :=
  congrArg (fun pair => ({ s with pair } : Duplex)) (s.pair.noteAll_noteAll events more)

/-! ### Starts -/

/-- Steps and the callbacks between them can be separated. -/
theorem attempt_eq (s : Duplex) (steps : List StreamStep) (amid : StreamStep → List Callback) :
    s.attempt (steps.map fun step => (step, amid step))
      = ((s.callbacks ((s.pair.passed steps).flatMap amid)).noteAll
            ((s.pair.tried steps).flatMap s.pair.trace),
          StreamError.outcome (steps.findSome? s.pair.fault?)) := by
  induction steps generalizing s with
  | nil => rfl
  | cons step steps ih =>
    rw [List.map_cons, attempt, s.pair.step_eq]
    cases hfault : s.pair.fault? step with
    | some err =>
      simp [StreamError.outcome, DevicePair.passed, DevicePair.tried, hfault]
      rfl
    | none =>
      -- what the rest of the steps finds differs in what was noted and in the ring only
      obtain ⟨ring, hpair, -⟩ := s.pair_callbacks (amid step)
      let next := (s.noteAll (s.pair.trace step)).callbacks (amid step)
      have hnext : next = (s.callbacks (amid step)).noteAll (s.pair.trace step) :=
        callbacks_noteAll ..
      have hsame : next.pair.fault? = s.pair.fault? ∧ next.pair.trace = s.pair.trace
          ∧ next.pair.passed = s.pair.passed := by
        rw [hnext, noteAll, hpair]
        exact ⟨rfl, rfl, rfl⟩
      obtain ⟨hfaults, htrace, hpassed⟩ := hsame
      have htried := DevicePair.tried_congr hfaults steps
      show next.attempt _ = _
      rw [ih next, hfaults, htrace, hpassed, htried, hnext, callbacks_noteAll, noteAll_noteAll,
        ← callbacks_append]
      simp [DevicePair.passed, DevicePair.tried, hfault]

/-- The callbacks that come before a start has ended: those after the steps that succeed. -/
def heeded (s : Duplex) (amid : StreamStep → List Callback) : List Callback :=
  if s.pair.ring.isSome then []
  else (s.pair.passed DevicePair.startSteps).flatMap amid

/-- **Callbacks do not interfere with a start.** It ends, and leaves the pair, as a start of the
    pair does.  The callbacks affect the engine, and the content of the ring if the start succeeds.
    -/
theorem start_of_none {s : Duplex} (h : s.pair.ring = none) (amid : StreamStep → List Callback) :
    let after := s.underway.callbacks (s.heeded amid)
    s.start amid
      = ({ pair := { s.pair.start.1 with ring := s.pair.start.1.ring.bind fun _ => after.pair.ring }
           engine := after.engine },
          s.pair.start.2) := by
  intro after
  have hnone : s.pair.ring.isSome = false := by rw [h, Option.isSome_none]
  have hattempt : s.underway.attempt (DevicePair.startSteps.map fun step => (step, amid step))
      = (after.noteAll ((s.pair.tried DevicePair.startSteps).flatMap s.pair.trace),
          StreamError.outcome s.pair.startFault?) := by
    have hsteps := s.underway.attempt_eq DevicePair.startSteps amid
    have htried : s.underway.pair.tried DevicePair.startSteps
        = s.pair.tried DevicePair.startSteps := DevicePair.tried_congr rfl _
    rw [htried] at hsteps
    simp only [after, heeded, hnone, Bool.false_eq_true, if_false]
    exact hsteps
  obtain ⟨ring, hpair, -⟩ := s.underway.pair_callbacks (s.heeded amid)
  have hafter : after.pair = { s.pair with ring } := hpair
  simp only [start, hnone, Bool.false_eq_true, if_false, hattempt, DevicePair.start_of_none h]
  cases hfault : s.pair.startFault? with
  | some err =>
    simp [StreamError.outcome, noteAll, hafter, hfault, DevicePair.startTrace, DevicePair.noteAll,
      h]
  | none =>
    simp [StreamError.outcome, noteAll, hafter, hfault, DevicePair.startTrace, DevicePair.noteAll]

theorem start_of_some {s : Duplex} (h : s.pair.ring.isSome = true)
    (amid : StreamStep → List Callback) : s.start amid = (s, .ok ()) := by
  simp only [start, h, if_true]

/-- After a start, callbacks that came during it show only in the content of the ring. -/
theorem pair_start (s : Duplex) (amid : StreamStep → List Callback) :
    (s.start amid).2 = s.pair.start.2
      ∧ ∃ ring, (s.start amid).1.pair = { s.pair.start.1 with ring }
          ∧ ring.isSome = s.pair.start.1.ring.isSome := by
  cases hring : s.pair.ring with
  | some ring =>
    have hsome : s.pair.ring.isSome = true := by rw [hring, Option.isSome_some]
    rw [start_of_some hsome, DevicePair.start_of_some hsome]
    exact ⟨rfl, s.pair.ring, rfl, rfl⟩
  | none =>
    obtain ⟨ring, hpair, hsome⟩ := s.underway.pair_callbacks (s.heeded amid)
    rw [start_of_none hring]
    refine ⟨rfl, s.pair.start.1.ring.bind fun _ => ring, ?_, ?_⟩
    · simp only [hpair]
    · cases s.pair.start.1.ring with
      | none => rfl
      | some _ => exact hsome

/-- There is a ring after a start exactly if the start has succeeded. -/
theorem start_amid (s : Duplex) (amid : StreamStep → List Callback) :
    (s.start amid).2 = s.pair.start.2
      ∧ ∃ ring, (s.start amid).1.pair = { s.pair.start.1 with ring }
          ∧ ring.isSome = s.pair.start.2.isOk := by
  obtain ⟨hresult, ring, hpair, hsome⟩ := s.pair_start amid
  refine ⟨hresult, ring, hpair, hsome.trans ?_⟩
  cases hring : s.pair.ring with
  | none => exact s.pair.ring_start hring
  | some _ =>
    rw [DevicePair.start_of_some (by rw [hring, Option.isSome_some]), hring]
    rfl

/-- A start without callbacks is a start of the pair, and leaves the engine alone. -/
theorem start_quiet (s : Duplex) :
    s.start (fun _ => []) = ({ s with pair := s.pair.start.1 }, s.pair.start.2) := by
  cases hring : s.pair.ring with
  | some ring =>
    have hsome : s.pair.ring.isSome = true := by rw [hring, Option.isSome_some]
    rw [start_of_some hsome, DevicePair.start_of_some hsome]
  | none =>
    have hheeded : s.heeded (fun _ => []) = [] := by simp [heeded]
    rw [start_of_none hring, hheeded, DevicePair.start_of_none hring]
    -- without callbacks, the ring is the new one of the pair
    cases s.pair.startFault? <;> simp [callbacks, underway, hring, DevicePair.noteAll]

end Duplex

end Loopback
