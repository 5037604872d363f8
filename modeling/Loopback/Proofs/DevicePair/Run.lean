import Loopback.Proofs.DevicePair.Duplex

/-! # Runs of a device pair

    A pair of devices is started and stopped, and every operation on a device may fail.  Its streams
    call back while they exist, possibly before a start has ended.

    * `Duplex.run` is a run of a pair with its engine, and `Duplex.brings` are the frames that the
      input stream brings during the run.
    * `balanced_perform` is the step for streams: there are none but those that the pair holds.
    * `Duplex.Hears` is the invariant from a moment without streams on: what the engine has recorded
      and what waits in the ring was brought since.  `Hears.perform` is the step.
    * `PairLaws` and `Clean` are the two halves of the main theorem, for a pair and for a moment of
      a run.
-/

namespace Loopback

namespace Duplex

/-- What can happen. -/
inductive Action where
  /-- A start, with the callbacks that come after its steps. -/
  | start (amid : StreamStep → List Callback)
  /-- A stop; callbacks during a stop have the same effect as callbacks before it. -/
  | stop
  | callback (c : Callback)
  /-- The engine forgets earlier runs and prepares for another one. -/
  | prepare
  /-- The devices change: from now on other operations fail. -/
  | hostChanges (host : Host)

def perform (s : Duplex) : Action → Duplex
  | .start amid => (s.start amid).1
  | .stop => { s with pair := s.pair.stop.1 }
  | .callback c => s.callback c
  | .prepare =>
    { s with engine := s.engine.prepare (Link.outputFormat s.pair) (Link.inputFormat s.pair) }
  | .hostChanges host => { s with pair := { s.pair with host } }

def run (s : Duplex) (actions : List Action) : Duplex := actions.foldl perform s

/-- The number of samples in a frame of the input. -/
def width (s : Duplex) : Nat := s.pair.channelCounts.input

/-- The frames that the input stream brings during an action. -/
def broughtBy (s : Duplex) : Action → List Frame
  | .start amid => (s.heeded amid).flatMap (·.frames s.width)
  | .callback c => if s.pair.ring.isSome then c.frames s.width else []
  | .stop | .prepare | .hostChanges _ => []

/-- The frames that the input stream brings during a run. -/
def brings (s : Duplex) : List Action → List Frame
  | [] => []
  | a :: actions => s.broughtBy a ++ (s.perform a).brings actions

/-! ### Streams -/

theorem balanced_perform {s : Duplex} (h : s.pair.Balanced) (a : Action) :
    (s.perform a).pair.Balanced := by
  cases a with
  | start amid =>
    obtain ⟨-, ring, hpair, hring⟩ := s.pair_start amid
    show (s.start amid).1.pair.Balanced
    rw [hpair]
    exact h.start.of_eq rfl hring
  | stop => exact h.stop
  | callback c =>
    obtain ⟨ring, hpair, hring⟩ := s.pair_callback c
    show (s.callback c).pair.Balanced
    rw [hpair]
    exact h.of_eq rfl hring
  | prepare => exact h
  | hostChanges host => exact h.of_eq rfl rfl

theorem balanced_run {s : Duplex} (h : s.pair.Balanced) (actions : List Action) :
    (s.run actions).pair.Balanced := by
  induction actions generalizing s with
  | nil => exact h
  | cons a actions ih => exact ih (balanced_perform h a)

/-! ### What is heard -/

/-- A recording that continues another one, or an empty one, by the frames `heard`. -/
def Continues (first recording : Option Recording) (heard : List Frame) : Prop :=
  ∃ base, (base = first ∨ ∃ r, base = some r ∧ r.frames = #[])
    ∧ recording = base.map (·.writeFrames heard)

/-- Since the engine's recording was `first`, the frames `brought` have come in.  What the engine
    has recorded since then and what waits in the ring is among them. -/
structure Hears (width : Nat) (first : Option Recording) (brought : List Frame) (s : Duplex) :
    Prop where
  width_eq : s.width = width
  among : ∃ heard waiting, (heard ++ waiting).Sublist brought
    ∧ Continues first s.engine.recorded heard
    ∧ ∀ ring, s.pair.ring = some ring → ring.Frames width waiting

section

variable {width : Nat} {first recording : Option Recording} {heard more brought : List Frame}
  {s : Duplex}

theorem Continues.refl (first : Option Recording) : Continues first first [] :=
  ⟨first, Or.inl rfl, (Recording.map_writeFrames_nil first).symm⟩

theorem Continues.writeFrames (h : Continues first recording heard) :
    Continues first (recording.map (·.writeFrames more)) (heard ++ more) := by
  obtain ⟨base, hbase, rfl⟩ := h
  exact ⟨base, hbase, (Recording.map_writeFrames_append base heard more).symm⟩

theorem Hears.callback (h : Hears width first brought s) (hsome : s.pair.ring.isSome = true)
    (c : Callback) :
    Hears width first (brought ++ c.frames width) (s.callback c) := by
  obtain ⟨heard, waiting, hsub, hrecorded, hring⟩ := h.among
  obtain ⟨ring, hsome⟩ := Option.isSome_iff_exists.mp hsome
  rw [callback_of_some hsome]
  obtain rfl := h.width_eq
  have hpos : 0 < s.pair.channelCounts.input := Nat.le_max_right ..
  obtain ⟨more, left, hmore, hmoreRecorded, hleft⟩ :=
    c.exchange_frames s.pair.output.format hpos s.engine (hring ring hsome)
  -- all that is heard or left by now was heard or waiting before, or has come with the callback
  have hall : (heard ++ (more ++ left)).Sublist (heard ++ waiting ++ c.frames s.width) := by
    rw [List.append_assoc]
    exact hmore.append_left heard
  refine ⟨rfl, heard ++ more, left, ?_, ?_, ?_⟩
  · rw [List.append_assoc]
    exact hall.trans (hsub.append_right _)
  · rw [hmoreRecorded]
    exact hrecorded.writeFrames
  · rintro _ ⟨⟩
    exact hleft

theorem Hears.callbacks (h : Hears width first brought s) (hsome : s.pair.ring.isSome = true)
    (cs : List Callback) :
    Hears width first (brought ++ cs.flatMap (·.frames width)) (s.callbacks cs) := by
  induction cs generalizing s brought with
  | nil => simpa [Duplex.callbacks] using h
  | cons c cs ih =>
    obtain ⟨ring, hpair, hring⟩ := s.pair_callback c
    have hnext := ih (h.callback hsome c) (by rw [hpair, ← hsome, ← hring])
    rwa [List.append_assoc] at hnext

/-- Dropping the ring drops the frames in it. -/
theorem Hears.of_ring (h : Hears width first brought s) {s' : Duplex} (hwidth : s'.width = s.width)
    (hengine : s'.engine = s.engine) (hring : s'.pair.ring = none ∨ s'.pair.ring = s.pair.ring) :
    Hears width first brought s' := by
  obtain ⟨heard, waiting, hsub, hrecorded, hwaiting⟩ := h.among
  refine ⟨hwidth.trans h.width_eq, heard, waiting, hsub, hengine ▸ hrecorded, ?_⟩
  intro ring hsome
  rcases hring with hnone | hsame
  · rw [hnone] at hsome
    cases hsome
  · exact hwaiting ring (hsame.symm.trans hsome)

/-- A new ring is empty, whatever waited before. -/
theorem Hears.underway (h : Hears width first brought s) :
    Hears width first brought s.underway := by
  obtain ⟨heard, waiting, hsub, hrecorded, -⟩ := h.among
  refine ⟨h.width_eq, heard, [], ?_, hrecorded, ?_⟩
  · rw [List.append_nil]
    exact (List.sublist_append_left heard waiting).trans hsub
  · rintro ring hsome
    obtain rfl := Option.some.inj hsome
    exact Ring.frames_new _ _

theorem Hears.start (h : Hears width first brought s) (amid : StreamStep → List Callback) :
    Hears width first (brought ++ s.broughtBy (.start amid)) (s.start amid).1 := by
  rw [broughtBy, h.width_eq]
  cases hring : s.pair.ring with
  | some ring =>
    have hsome : s.pair.ring.isSome = true := by rw [hring, Option.isSome_some]
    rw [start_of_some hsome, heeded, if_pos hsome, List.flatMap_nil, List.append_nil]
    exact h
  | none =>
    have hamid := h.underway.callbacks rfl (s.heeded amid)
    have hwidth : s.pair.start.1.channelCounts.input = s.width :=
      congrArg (·.streamFormat.channels) s.pair.input_start
    rw [start_of_none hring]
    refine hamid.of_ring (hwidth.trans (h.width_eq.trans hamid.width_eq.symm)) rfl ?_
    -- the ring that the callbacks have left is either dropped or kept
    cases s.pair.start.1.ring with
    | none => exact Or.inl rfl
    | some _ => exact Or.inr rfl

theorem Hears.perform (h : Hears width first brought s) (a : Action) :
    Hears width first (brought ++ s.broughtBy a) (s.perform a) := by
  cases a with
  | start amid => exact h.start amid
  | stop =>
    have hwidth : (s.perform .stop).width = s.width :=
      congrArg (·.streamFormat.channels) s.pair.input_stop
    rw [broughtBy, List.append_nil]
    exact h.of_ring hwidth rfl (Or.inl s.pair.ring_stop)
  | callback c =>
    cases hring : s.pair.ring with
    | none =>
      -- without streams nothing comes and nothing happens
      simp only [broughtBy, hring, Duplex.perform, callback_of_none hring]
      simpa using h
    | some ring =>
      have hsome : s.pair.ring.isSome = true := by rw [hring, Option.isSome_some]
      simp only [broughtBy, hsome, if_true, h.width_eq]
      exact h.callback hsome c
  | prepare =>
    -- what waits in the ring stays there
    obtain ⟨heard, waiting, hsub, -, hring⟩ := h.among
    rw [broughtBy, List.append_nil]
    have hwaiting : ([] ++ waiting).Sublist brought :=
      (List.sublist_append_right heard waiting).trans hsub
    refine ⟨h.width_eq, [], waiting, hwaiting, ?_, hring⟩
    exact ⟨_, Or.inr ⟨_, rfl, rfl⟩, (Recording.map_writeFrames_nil _).symm⟩
  | hostChanges host =>
    rw [broughtBy, List.append_nil]
    exact h.of_ring rfl rfl (Or.inr rfl)

theorem Hears.run (h : Hears width first brought s) (actions : List Action) :
    Hears width first (brought ++ s.brings actions) (s.run actions) := by
  induction actions generalizing s brought with
  | nil => simpa [brings, Duplex.run] using h
  | cons a actions ih =>
    have hnext := ih (h.perform a)
    rwa [List.append_assoc] at hnext

end

/-- How a pair of devices starts and stops. -/
structure PairLaws (p : DevicePair) : Prop where
  /-- A step fails if its device fails, and the events of its stream are noted. -/
  step_eq : ∀ s, p.step s = (p.noteAll (p.trace s), StreamError.outcome (p.fault? s))
  /-- A stream is not built if the samples of the device have a format that cannot be streamed. -/
  unsupported : ∀ d, (p.device d).format.streamable = false →
    p.fault? (.build d) = some (.unsupportedFormat (p.device d).format.name)
  /-- A pair that holds streams is not started again. -/
  start_held : p.ring.isSome = true → p.start = (p, .ok ())
  /-- A pair without streams takes the steps of a start in order.  If one fails, the start returns
      its error and everything built so far is closed; otherwise the pair holds both streams. -/
  start_free : p.ring = none →
    p.start = match p.startFault? with
      | some err => (p.noteAll p.startTrace, .error err)
      | none => ({ p.noteAll p.startTrace with ring := some p.newRing }, .ok ())
  /-- The ring of new streams is empty. -/
  newRing_items : p.newRing.items = #[]
  /-- A stop pauses and closes both streams whatever fails.  If both fail, it returns the error of
      the output. -/
  stop_held : p.ring.isSome = true →
    p.stop = ({ p.noteAll p.stopTrace with ring := none },
      StreamError.outcome ((p.fault? (.pause .output)).or (p.fault? (.pause .input))))
  /-- Without streams a stop does nothing. -/
  stop_free : p.ring = none → p.stop = (p, .ok ())

/-- What holds at any moment of a run. -/
structure Clean (s : Duplex) : Prop where
  /-- Every stream that was built has been closed, except those that the pair holds. -/
  balanced : s.pair.Balanced
  /-- Callbacks during a start change neither its result nor the pair it leaves, except for the
      content of the ring. -/
  start_amid : ∀ amid, (s.start amid).2 = s.pair.start.2
    ∧ ∃ ring, (s.start amid).1.pair = { s.pair.start.1 with ring }
      ∧ ring.isSome = s.pair.start.2.isOk
  /-- A start without callbacks leaves the engine alone. -/
  start_quiet : s.start (fun _ => []) = ({ s with pair := s.pair.start.1 }, s.pair.start.2)
  /-- If the pair holds no streams, the engine records from then on only frames that the input
      stream brings later.  They are appended to its present recording or to a new one. -/
  fresh : s.pair.ring = none → ∀ later, ∃ heard, heard.Sublist (s.brings later)
    ∧ Continues s.engine.recorded (s.run later).engine.recorded heard

/-- Nothing waits if there are no streams, whatever was captured before. -/
theorem hears_of_none {s : Duplex} (h : s.pair.ring = none) :
    Hears s.width s.engine.recorded [] s := by
  refine ⟨rfl, [], [], List.Sublist.refl _, Continues.refl _, ?_⟩
  intro ring hsome
  rw [h] at hsome
  cases hsome

/-- **Both streams or none.** Whatever the devices do, a pair obeys the laws of starts and stops,
    and a run that begins without streams is clean after any sequence of starts, stops, callbacks
    and changes of the devices. -/
theorem both_streams_or_none :
    (∀ p : DevicePair, PairLaws p)
      ∧ ∀ (s : Duplex) (actions : List Action), s.pair.ring = none → s.pair.events = [] →
        (s.run actions).Clean := by
  constructor
  · intro p
    exact
      { step_eq := p.step_eq
        unsupported := by
          intro d hformat
          simp only [DevicePair.fault?, hformat, Bool.false_eq_true, if_false]
        start_held := DevicePair.start_of_some
        start_free := DevicePair.start_of_none
        newRing_items := rfl
        stop_held := DevicePair.stop_of_some
        stop_free := DevicePair.stop_of_none }
  · intro s actions hnone hevents
    have hnew : s.pair.Balanced := fun d => by rw [hevents, hnone]; rfl
    exact
      { balanced := balanced_run hnew actions
        start_amid := start_amid _
        start_quiet := start_quiet _
        fresh := by
          intro hgone later
          obtain ⟨heard, waiting, hsub, hrecorded, -⟩ := ((hears_of_none hgone).run later).among
          exact ⟨heard, (List.sublist_append_left heard waiting).trans hsub, hrecorded⟩ }

/-- A device whose input cannot be paused, and whose output may refuse to start. -/
def speakerphone (playError : Option String) : Host :=
  { devices :=
      [{ name := "speakerphone"
         input := some { rate := 8, channels := 1, format := .f32, pauseError := some "stuck" }
         output := some { rate := 8, channels := 1, format := .f32, playError } }] }

/-- A pair with this device in both directions, and an engine that is prepared for it. -/
def onSpeakerphone : Duplex :=
  let device : OpenDevice := { index := 0, rate := 8, channels := 1, format := .f32 }
  { pair := { host := speakerphone (some "mute"), input := device, output := device }
    engine := (Engine.new { maxRecordSeconds := 1 }).prepare device.streamFormat
      device.streamFormat }

/-- A start fails at its last step while a frame is captured.  The output is then repaired, and the
    frame that is captured after another start is the only one that the engine records.  With
    samples of another format the output would not even be built. -/
theorem both_streams_or_none_on_speakerphone :
    let amid := fun step => if step = .play .input then [.capture (.f32 [.one])] else []
    let mid := onSpeakerphone.run [.start amid]
    let later : List Action :=
      [.hostChanges (speakerphone none), .prepare, .start (fun _ => []),
        .callback (.capture (.f32 [.half])), .callback (.render .free 1)]
    let last := mid.run later
    let odd : DevicePair :=
      { onSpeakerphone.pair with output := { onSpeakerphone.pair.output with format := .f64 } }
    odd.fault? (.build .output) = some (.unsupportedFormat "F64")
      ∧ onSpeakerphone.pair.ring = none ∧ onSpeakerphone.pair.events = []
      ∧ (onSpeakerphone.start amid).2
        = .error (.play "output: A backend-specific error has occurred: mute")
      ∧ mid.pair.ring = none
      ∧ mid.pair.Balanced
      ∧ (∃ heard, heard.Sublist (mid.brings later)
          ∧ Continues mid.engine.recorded last.engine.recorded heard)
      ∧ mid.brings later = [[.half]]
      ∧ last.engine.recorded.map (·.frames) = some #[[.half]]
      ∧ last.pair.start = (last.pair, .ok ())
      ∧ last.pair.stop.2 = .error (.pause "input: A backend-specific error has occurred: stuck")
      ∧ last.pair.stop.1.ring = none := by
  intro amid mid later last odd
  obtain ⟨hpairs, hruns⟩ := both_streams_or_none
  -- the first start
  have hmute : onSpeakerphone.pair.startFault?
      = some (.play "output: A backend-specific error has occurred: mute") := by decide +kernel
  have hfailed := ((hruns onSpeakerphone [] rfl rfl).start_amid amid).1
  rw [show onSpeakerphone.run [] = onSpeakerphone from rfl,
    (hpairs onSpeakerphone.pair).start_free rfl, hmute] at hfailed
  -- after it
  have hclean := hruns onSpeakerphone [.start amid] rfl rfl
  have hgone : mid.pair.ring = none := by decide +kernel
  have hheld : last.pair.ring.isSome = true := by decide +kernel
  have hstop := (hpairs last.pair).stop_held hheld
  have hstuck : (last.pair.fault? (.pause .output)).or (last.pair.fault? (.pause .input))
      = some (.pause "input: A backend-specific error has occurred: stuck") := by decide +kernel
  rw [hstuck] at hstop
  exact ⟨(hpairs odd).unsupported .output rfl, rfl, rfl, hfailed, hgone, hclean.balanced,
    hclean.fresh hgone later, by decide +kernel, by decide +kernel,
    (hpairs last.pair).start_held hheld, by rw [hstop]; rfl, by rw [hstop]⟩

end Duplex

end Loopback
