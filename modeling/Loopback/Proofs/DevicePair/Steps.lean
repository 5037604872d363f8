import Loopback.Proofs.DevicePair

/-! # The steps of starting and stopping

    A start takes four steps, and any of them may fail.  The first failure ends it: the start
    returns the error of that step, and the streams built so far are closed, the latest first.

    * `StreamStep` is one request to a device; `DevicePair.fault?` says why it fails and
      `DevicePair.trace` what happens to the stream.
    * `start_of_none` and `stop_of_some` describe starts and stops by their steps.
    * `Balanced` says that there are no streams but those that the pair holds; starts and stops
      preserve it.
-/

namespace Loopback

/-- A request to a device. -/
inductive StreamStep where
  | build (direction : Direction)
  | play (direction : Direction)
  | pause (direction : Direction)
deriving DecidableEq, Repr

/-- The events that undo a step: a stream that was built is closed. -/
def StreamStep.undo : StreamStep → List StreamEvent
  | build direction => [.close direction]
  | play _ | pause _ => []

/-- The result of steps with the given first failure. -/
def StreamError.outcome : Option StreamError → Except StreamError Unit
  | none => .ok ()
  | some err => .error err

namespace DevicePair

def startSteps : List StreamStep := [.build .input, .build .output, .play .input, .play .output]

variable (p : DevicePair)

def step : StreamStep → DevicePair × Except StreamError Unit
  | .build direction => p.build direction
  | .play direction => p.play direction
  | .pause direction => p.pause direction

/-- Why a step fails, if it does.  A format that cannot be streamed makes building fail, whatever
    the device would answer. -/
def fault? : StreamStep → Option StreamError
  | .build direction =>
    if (p.device direction).format.streamable then
      ((p.side direction).bind (·.buildError)).map fun cause =>
        .build s!"{direction.label}: {FaultStage.build.message cause}"
    else some (.unsupportedFormat (p.device direction).format.name)
  | .play direction =>
    ((p.side direction).bind (·.playError)).map fun cause =>
      .play s!"{direction.label}: {FaultStage.transport.message cause}"
  | .pause direction =>
    ((p.side direction).bind (·.pauseError)).map fun cause =>
      .pause s!"{direction.label}: {FaultStage.transport.message cause}"

/-- The events of a step.  A device is not asked to build a stream of a format that cannot be
    streamed. -/
def trace (s : StreamStep) : List StreamEvent :=
  let ok := (p.fault? s).isNone
  match s with
  | .build direction =>
    let device := p.device direction
    if device.format.streamable then
      [.build direction device.format device.channels device.rate ok]
    else []
  | .play direction => [.play direction ok]
  | .pause direction => [.pause direction ok]

def noteAll (events : List StreamEvent) : DevicePair :=
  { p with events := events.reverse ++ p.events }

/-- The steps that succeed: those before the first failure. -/
def passed (steps : List StreamStep) : List StreamStep :=
  steps.takeWhile fun s => (p.fault? s).isNone

/-- The steps that are taken: those that succeed and the first failure. -/
def tried : List StreamStep → List StreamStep
  | [] => []
  | s :: steps => s :: if (p.fault? s).isNone then tried steps else []

/-! ### One step -/

@[simp] theorem noteAll_noteAll (events more : List StreamEvent) :
    (p.noteAll events).noteAll more = p.noteAll (events ++ more) := by
  simp only [noteAll, List.reverse_append, List.append_assoc]

@[simp] theorem close_noteAll (events : List StreamEvent) (direction : Direction) :
    (p.noteAll events).close direction = p.noteAll (events ++ [.close direction]) :=
  noteAll_noteAll p events [.close direction]

/-- The result of a step depends on the devices only, not on what has happened before. -/
@[simp] theorem fault?_noteAll (events : List StreamEvent) (s : StreamStep) :
    (p.noteAll events).fault? s = p.fault? s := rfl

@[simp] theorem trace_noteAll (events : List StreamEvent) (s : StreamStep) :
    (p.noteAll events).trace s = p.trace s := rfl

@[simp] theorem newRing_noteAll (events : List StreamEvent) :
    (p.noteAll events).newRing = p.newRing := rfl

theorem step_eq (s : StreamStep) :
    p.step s = (p.noteAll (p.trace s), StreamError.outcome (p.fault? s)) := by
  cases s with
  | build direction =>
    -- the device is asked only if its samples can be streamed
    cases hformat : (p.device direction).format.streamable with
    | false => simp [step, build, trace, fault?, hformat, noteAll, StreamError.outcome]
    | true =>
      cases hside : (p.side direction).bind (·.buildError) <;>
        simp [step, build, trace, fault?, hformat, hside, note, noteAll, StreamError.outcome]
  | play direction =>
    cases hside : (p.side direction).bind (·.playError) <;>
      simp [step, play, trace, fault?, hside, note, noteAll, StreamError.outcome]
  | pause direction =>
    cases hside : (p.side direction).bind (·.pauseError) <;>
      simp [step, pause, trace, fault?, hside, note, noteAll, StreamError.outcome]

theorem build_eq (d : Direction) :
    p.build d = (p.noteAll (p.trace (.build d)), StreamError.outcome (p.fault? (.build d))) :=
  p.step_eq (.build d)

theorem play_eq (d : Direction) :
    p.play d = (p.noteAll (p.trace (.play d)), StreamError.outcome (p.fault? (.play d))) :=
  p.step_eq (.play d)

theorem pause_eq (d : Direction) :
    p.pause d = (p.noteAll (p.trace (.pause d)), StreamError.outcome (p.fault? (.pause d))) :=
  p.step_eq (.pause d)

/-- Which steps are taken depends only on the result of each of them. -/
theorem tried_congr {p q : DevicePair} (h : q.fault? = p.fault?) (steps : List StreamStep) :
    q.tried steps = p.tried steps := by
  induction steps with
  | nil => rfl
  | cons s steps ih => rw [tried, tried, h, ih]

/-! ### Starting -/

variable {p}

def startFault? (p : DevicePair) : Option StreamError := startSteps.findSome? p.fault?

/-- The events of a start.  If it fails, the streams that were built are closed again, the latest
    first. -/
def startTrace (p : DevicePair) : List StreamEvent :=
  (p.tried startSteps).flatMap p.trace
    ++ if p.startFault?.isSome then (p.passed startSteps).reverse.flatMap StreamStep.undo else []

theorem start_of_some (h : p.ring.isSome = true) : p.start = (p, .ok ()) := by
  simp only [start, h, if_true]

/-- A start without streams returns the error of the first failing step; if none fails, the pair
    holds streams with an empty ring. -/
theorem start_of_none (h : p.ring = none) :
    p.start
      = match p.startFault? with
        | some err => (p.noteAll p.startTrace, .error err)
        | none => ({ p.noteAll p.startTrace with ring := some p.newRing }, .ok ()) := by
  have hnone : p.ring.isSome = false := by rw [h, Option.isSome_none]
  -- step by step, up to the first one that fails
  cases hin : p.fault? (.build .input) with
  | some err =>
    simp [start, hnone, build_eq, hin, StreamError.outcome, startTrace, startFault?, tried, passed,
      startSteps]
  | none =>
  cases hout : p.fault? (.build .output) with
  | some err =>
    simp [start, hnone, build_eq, hin, hout, StreamError.outcome, startTrace, startFault?, tried,
      passed, startSteps, StreamStep.undo]
  | none =>
  cases hin' : p.fault? (.play .input) with
  | some err =>
    simp [start, hnone, build_eq, play_eq, hin, hout, hin', StreamError.outcome, startTrace,
      startFault?, tried, passed, startSteps, StreamStep.undo]
  | none =>
  cases hout' : p.fault? (.play .output) with
  | some err =>
    simp [start, hnone, build_eq, play_eq, hin, hout, hin', hout', StreamError.outcome, startTrace,
      startFault?, tried, passed, startSteps, StreamStep.undo]
  | none =>
    simp [start, hnone, build_eq, play_eq, hin, hout, hin', hout', StreamError.outcome, startTrace,
      startFault?, tried, startSteps]

/-! ### Stopping -/

theorem stop_of_none (h : p.ring = none) : p.stop = (p, .ok ()) := by
  simp only [stop, h, Option.isNone_none, if_true]

/-- The events of a stop, whatever fails. -/
def stopTrace (p : DevicePair) : List StreamEvent :=
  p.trace (.pause .output) ++ p.trace (.pause .input) ++ [.close .output, .close .input]

/-- A stop leaves no streams.  The failure of the output takes precedence over that of the input. -/
theorem stop_of_some (h : p.ring.isSome = true) :
    p.stop
      = ({ p.noteAll p.stopTrace with ring := none },
          StreamError.outcome ((p.fault? (.pause .output)).or (p.fault? (.pause .input)))) := by
  have hsome : p.ring.isNone = false := by simpa using h
  simp only [stop, hsome, Bool.false_eq_true, if_false, pause_eq, fault?_noteAll, trace_noteAll,
    noteAll_noteAll, close_noteAll, stopTrace]
  cases p.fault? (.pause .output) <;> simp [StreamError.outcome]

/-! ### The devices stay -/

theorem input_start (p : DevicePair) : p.start.1.input = p.input := by
  cases hring : p.ring with
  | none =>
    rw [start_of_none hring]
    cases p.startFault? <;> rfl
  | some ring => rw [start_of_some (by rw [hring]; rfl)]

theorem input_stop (p : DevicePair) : p.stop.1.input = p.input := by
  cases hring : p.ring with
  | none => rw [stop_of_none hring]
  | some ring =>
    rw [stop_of_some (by rw [hring]; rfl)]
    rfl

end DevicePair

/-! ### Streams that exist -/

namespace StreamEvent

def opens (direction : Direction) : StreamEvent → Bool
  | build d _ _ _ ok => d == direction && ok
  | play _ _ | pause _ _ | close _ => false

def closes (direction : Direction) : StreamEvent → Bool
  | close d => d == direction
  | build _ _ _ _ _ | play _ _ | pause _ _ => false

@[simp] theorem opens_close (d direction : Direction) : (close d).opens direction = false := rfl

@[simp] theorem closes_close (d direction : Direction) :
    (close d).closes direction = (d == direction) := rfl

end StreamEvent

namespace DevicePair

/-- In each direction every stream that was ever built has been closed, except the one that the pair
    holds. -/
def Balanced (p : DevicePair) : Prop :=
  ∀ d : Direction, p.events.countP (StreamEvent.opens d)
    = p.events.countP (StreamEvent.closes d) + if p.ring.isSome then 1 else 0

variable {p : DevicePair}

theorem Balanced.of_eq (h : p.Balanced) {q : DevicePair} (hevents : q.events = p.events)
    (hring : q.ring.isSome = p.ring.isSome) : q.Balanced := by
  intro d
  rw [hevents, hring]
  exact h d

theorem Balanced.noteAll (h : p.Balanced) {events : List StreamEvent} {ring : Option Ring}
    (hevents : ∀ d : Direction,
      events.countP (StreamEvent.opens d) + (if p.ring.isSome then 1 else 0)
        = events.countP (StreamEvent.closes d) + if ring.isSome then 1 else 0) :
    ({ p.noteAll events with ring } : DevicePair).Balanced := by
  intro d
  have hbefore := h d
  have hnew := hevents d
  simp only [DevicePair.noteAll, List.countP_append, List.countP_reverse]
  omega

theorem countP_closes_trace (d : Direction) (s : StreamStep) :
    (p.trace s).countP (StreamEvent.closes d) = 0 := by
  cases s with
  | build direction => cases hformat : (p.device direction).format.streamable <;>
      simp [trace, hformat, StreamEvent.closes]
  | play direction => rfl
  | pause direction => rfl

/-- A step opens a stream exactly if it builds one and does not fail. -/
theorem countP_opens_trace (d : Direction) (s : StreamStep) :
    (p.trace s).countP (StreamEvent.opens d)
      = if s = .build d ∧ p.fault? s = none then 1 else 0 := by
  cases s with
  | build direction =>
    cases hformat : (p.device direction).format.streamable with
    | false => simp [trace, fault?, hformat]
    | true => cases hfault : p.fault? (.build direction) <;>
        simp [trace, hformat, hfault, StreamEvent.opens]
  | play direction => simp [trace, StreamEvent.opens]
  | pause direction => simp [trace, StreamEvent.opens]

theorem countP_closes_tried (d : Direction) (steps : List StreamStep) :
    ((p.tried steps).flatMap p.trace).countP (StreamEvent.closes d) = 0 := by
  rw [List.countP_eq_zero]
  intro event hevent
  obtain ⟨s, -, hs⟩ := List.mem_flatMap.mp hevent
  exact List.countP_eq_zero.mp (countP_closes_trace d s) event hs

/-- The streams opened up to the first failure are those of the build steps that succeeded. -/
theorem countP_opens_tried (d : Direction) (steps : List StreamStep) :
    ((p.tried steps).flatMap p.trace).countP (StreamEvent.opens d)
      = (p.passed steps).count (.build d) := by
  induction steps with
  | nil => rfl
  | cons s steps ih =>
    rw [tried, List.flatMap_cons, List.countP_append, countP_opens_trace]
    cases hfault : p.fault? s with
    | none =>
      simp only [passed] at ih
      simp [passed, hfault, ih, List.count_cons, Nat.add_comm]
    | some err => simp [passed, hfault]

/-- Undoing steps closes what they have opened, and opens nothing. -/
theorem countP_undo (d : Direction) (steps : List StreamStep) :
    (steps.flatMap StreamStep.undo).countP (StreamEvent.closes d) = steps.count (.build d)
      ∧ (steps.flatMap StreamStep.undo).countP (StreamEvent.opens d) = 0 := by
  induction steps with
  | nil => exact ⟨rfl, rfl⟩
  | cons s steps ih =>
    obtain ⟨hcloses, hopens⟩ := ih
    rw [List.flatMap_cons, List.countP_append, List.countP_append, hcloses, hopens,
      List.count_cons, Nat.add_comm]
    cases s <;> simp [StreamStep.undo]

/-- If no step fails, all of them succeed. -/
theorem passed_of_startFault? (h : p.startFault? = none) : p.passed startSteps = startSteps := by
  have hfaults : ∀ s ∈ startSteps, p.fault? s = none := List.findSome?_eq_none_iff.mp h
  simp only [startSteps, List.forall_mem_cons] at hfaults
  simp [passed, startSteps, hfaults]

/-- A start that fails closes what it has built. -/
theorem Balanced.start (h : p.Balanced) : p.start.1.Balanced := by
  cases hring : p.ring.isSome with
  | true =>
    rw [start_of_some hring]
    exact h
  | false =>
    have hnone : p.ring = none := by simpa using hring
    rw [start_of_none hnone]
    cases hfault : p.startFault? with
    | some err =>
      -- as many are closed as were built, and there are no streams as before
      have hkept : p.noteAll p.startTrace = { p.noteAll p.startTrace with ring := none } := by
        rw [← hnone]
        rfl
      dsimp only
      rw [hkept]
      refine h.noteAll fun d => ?_
      obtain ⟨hcloses, hopens⟩ := countP_undo d (p.passed startSteps).reverse
      simp [startTrace, hfault, hring, countP_opens_tried, countP_closes_tried, hcloses, hopens]
    | none =>
      refine h.noteAll fun d => ?_
      have hone : startSteps.count (.build d) = 1 := by cases d <;> rfl
      simp [startTrace, hfault, hring, countP_opens_tried, countP_closes_tried,
        passed_of_startFault? hfault, hone]

theorem Balanced.stop (h : p.Balanced) : p.stop.1.Balanced := by
  cases hring : p.ring.isSome with
  | true =>
    rw [stop_of_some hring]
    refine h.noteAll fun d => ?_
    cases d <;> simp [stopTrace, hring, countP_opens_trace, countP_closes_trace]
  | false =>
    rw [stop_of_none (by simpa using hring)]
    exact h

end DevicePair

end Loopback
