import Loopback.Proofs.Engine.Process
import Loopback.Proofs.Engine.Run

/-! # The two directions of an engine

    An engine plays and listens in the same call, and a start prepares both.  Nevertheless neither
    direction affects the other: two runs that differ in what is heard play the same, and two runs
    that differ in what is played hear the same.

    * `PlayingSide` and `ListeningSide` are the two halves of an engine, `PlayingPart` and
      `ListeningPart` what an action brings to each of them.
    * After one action, each half depends only on that half before and on that part of the action
      (`playingSide_perform`, `listeningSide_perform`); runs of actions are compared step by step
      (`directions_do_not_interfere`).
-/

namespace Loopback.Engine

/-! ### The halves of an engine -/

/-- The state that playing uses. -/
structure PlayingSide where
  options : Options
  clip : Option Clip
  loopMode : Bool
  cursor : Nat
  /-- The cursor that the monitor shows. -/
  position : Nat
  playedFrames : Nat
  played : Option Recording

/-- The state that listening uses. -/
structure ListeningSide where
  options : Options
  meters : List Meter
  ticket : PeakTicket
  /-- The levels that the monitor shows. -/
  peaks : PeakBoard
  recordedFrames : Nat
  recorded : Option Recording

def playingSide (e : Engine) : PlayingSide :=
  { options := e.options
    clip := e.clip
    loopMode := e.monitor.loopMode
    cursor := e.cursor
    position := e.monitor.position
    playedFrames := e.monitor.playedFrames
    played := e.played }

def listeningSide (e : Engine) : ListeningSide :=
  { options := e.options
    meters := e.meters
    ticket := e.ticket
    peaks := e.monitor.peaks
    recordedFrames := e.monitor.recordedFrames
    recorded := e.recorded }

/-! ### The halves of an action -/

/-- What an action brings to the playing side. -/
inductive PlayingPart where
  | load (a : Audio)
  | loopMode (on : Bool)
  | start (output : StreamFormat)
  | stop
  | process (output : List Sample) (count channels : Nat)

/-- What an action brings to the listening side.  Loads, switches of the loop mode and stops bring
    nothing. -/
inductive ListeningPart where
  | nothing
  | start (input : StreamFormat)
  | process (input : List Sample) (count channels : Nat)

def Action.playingPart : Action → PlayingPart
  | .load a => .load a
  | .loopMode on => .loopMode on
  | @Action.start _ _ link => .start (Link.outputFormat link)
  | @Action.stop _ _ _ => .stop
  | .process call => .process call.output call.outputCount call.channels.output

def Action.listeningPart : Action → ListeningPart
  | .load _ | .loopMode _ | @Action.stop _ _ _ => .nothing
  | @Action.start _ _ link => .start (Link.inputFormat link)
  | .process call => .process call.input call.inputCount call.channels.input

/-! ### Traces of a run -/

/-- The buffer that a call leaves; the other actions have none. -/
def buffer? (e : Engine) : Action → Option (List Sample)
  | .process call => some (e.answer call).2
  | .load _ | .loopMode _ | @Action.start _ _ _ | @Action.stop _ _ _ => none

/-- The playing side after each action, and the buffers of the calls. -/
def playingTrace (e : Engine) : List Action → List (PlayingSide × Option (List Sample))
  | [] => []
  | a :: actions => ((e.perform a).playingSide, e.buffer? a) :: (e.perform a).playingTrace actions

/-- The listening side after each action. -/
def listeningTrace (e : Engine) : List Action → List ListeningSide
  | [] => []
  | a :: actions => (e.perform a).listeningSide :: (e.perform a).listeningTrace actions

/-! ### The half that a call does not use -/

section

variable (e : Engine) (count channels : Nat)

/-- Listening leaves the playing side alone. -/
@[simp] theorem playingSide_capture (input : List Sample) :
    (e.capture input count channels).playingSide = e.playingSide := by
  unfold capture
  split <;> rfl

/-- Playing leaves the listening side alone, with or without a clip. -/
@[simp] theorem listeningSide_render (output : List Sample) :
    (e.render output count channels).1.listeningSide = e.listeningSide := by
  by_cases hc : channels = 0
  · simp only [render, hc, if_true]
  · obtain ⟨cursor, position, hplaying⟩ :=
      e.afterPlaying_eq channels (min count (Frame.available channels output))
    rw [render_eq e output count hc, hplaying]
    rfl

end

/-! ### The half that a call uses -/

section

variable {e e' : Engine}

/-- What is played depends only on the playing side. -/
theorem render_of_playingSide (h : e.playingSide = e'.playingSide) (output : List Sample)
    (count channels : Nat) :
    (e.render output count channels).1.playingSide
        = (e'.render output count channels).1.playingSide
      ∧ (e.render output count channels).2 = (e'.render output count channels).2 := by
  simp only [playingSide, PlayingSide.mk.injEq] at h
  obtain ⟨hoptions, hclip, hloop, hcursor, hposition, hframes, hplayed⟩ := h
  unfold render
  by_cases hc : channels = 0
  · simp [playingSide, *]
  · -- both play the same clip, or none
    cases hnone : e'.clip with
    | none => simp [playingSide, *]
    | some clip => simp [playingSide, *]

/-- What is heard depends only on the listening side. -/
theorem capture_of_listeningSide (h : e.listeningSide = e'.listeningSide) (input : List Sample)
    (count channels : Nat) :
    (e.capture input count channels).listeningSide
      = (e'.capture input count channels).listeningSide := by
  simp only [listeningSide, ListeningSide.mk.injEq] at h
  obtain ⟨hoptions, hmeters, hticket, hpeaks, hframes, hrecorded⟩ := h
  unfold capture
  by_cases hc : channels = 0
  · simp [listeningSide, *]
  · simp [listeningSide, *]

/-- A load that succeeds rewinds the playing side; one that fails leaves it alone. -/
theorem playingSide_load (e : Engine) (a : Audio) :
    (e.perform (.load a)).playingSide
      = match Clip.ofAudio a with
        | .ok clip => { e.playingSide with clip := some clip, cursor := 0, position := 0 }
        | .error _ => e.playingSide := by
  rcases perform_load e a with ⟨clip, hok, heq⟩ | ⟨err, herr, heq⟩
  · rw [heq, hok]
    rfl
  · rw [heq, herr]

/-- A start prepares each side for its own format, whether or not the link refuses. -/
theorem sides_start {σ : Type} [Link σ] (e : Engine) (link : σ) :
    (e.start link).1.playingSide
        = { e.playingSide with
            cursor := 0
            position := 0
            playedFrames := 0
            played := some (.new (Link.outputFormat link).channels
              (e.recordingCapacity (Link.outputFormat link))) }
      ∧ (e.start link).1.listeningSide
        = { e.listeningSide with
            meters := List.replicate (Link.inputFormat link).channels (.fresh e.options.peakDecay)
            ticket := (e.monitor.peaks.reset (Link.inputFormat link).channels).2
            peaks := (e.monitor.peaks.reset (Link.inputFormat link).channels).1
            recordedFrames := 0
            recorded := some (.new (Link.inputFormat link).channels
              (e.recordingCapacity (Link.inputFormat link))) } := by
  rcases start_eq e link with heq | heq
  · rw [heq]
    exact ⟨rfl, rfl⟩
  · rw [heq]
    exact ⟨rfl, rfl⟩

/-! ### One action -/

/-- After an action, the playing side and the buffer depend only on that side before and on what the
    action brings to it. -/
theorem playingSide_perform (h : e.playingSide = e'.playingSide) {a a' : Action}
    (ha : a.playingPart = a'.playingPart) :
    (e.perform a).playingSide = (e'.perform a').playingSide ∧ e.buffer? a = e'.buffer? a' := by
  -- the two actions are of one kind, since their parts are
  cases a with
  | load a =>
    cases a' with
    | load a' =>
      obtain rfl := PlayingPart.load.inj ha
      refine ⟨?_, rfl⟩
      rw [playingSide_load, playingSide_load, h]
    | _ => cases ha
  | loopMode on =>
    cases a' with
    | loopMode on' =>
      obtain rfl := PlayingPart.loopMode.inj ha
      refine ⟨?_, rfl⟩
      show { e.playingSide with loopMode := on } = { e'.playingSide with loopMode := on }
      rw [h]
    | _ => cases ha
  | start link =>
    cases a' with
    | start link' =>
      refine ⟨?_, rfl⟩
      have hformat := PlayingPart.start.inj ha
      show (e.start link).1.playingSide = (e'.start link').1.playingSide
      have hoptions : e.options = e'.options := congrArg PlayingSide.options h
      rw [(sides_start e link).1, (sides_start e' link').1, h, hformat, recordingCapacity,
        recordingCapacity, hoptions]
    | _ => cases ha
  | stop link =>
    cases a' with
    | stop link' => exact ⟨h, rfl⟩
    | _ => cases ha
  | process call =>
    cases a' with
    | process call' =>
      obtain ⟨houtput, hcount, hchannels⟩ := PlayingPart.process.inj ha
      simp only [perform, buffer?, answer, process, playingSide_capture, houtput, hcount,
        hchannels]
      obtain ⟨hside, hbuffer⟩ :=
        render_of_playingSide h call'.output call'.outputCount call'.channels.output
      exact ⟨hside, congrArg some hbuffer⟩
    | _ => cases ha

/-- An action that brings nothing to the listening side leaves it alone. -/
theorem listeningSide_perform_of_nothing (e : Engine) {a : Action}
    (ha : a.listeningPart = .nothing) : (e.perform a).listeningSide = e.listeningSide := by
  cases a with
  | load a =>
    rcases perform_load e a with ⟨clip, -, heq⟩ | ⟨err, -, heq⟩
    · rw [heq]
      rfl
    · rw [heq]
  | loopMode on => rfl
  | start link => cases ha
  | stop link => rfl
  | process call => cases ha

/-- After an action, the listening side depends only on that side before and on what the action
    brings to it. -/
theorem listeningSide_perform (h : e.listeningSide = e'.listeningSide) {a a' : Action}
    (ha : a.listeningPart = a'.listeningPart) :
    (e.perform a).listeningSide = (e'.perform a').listeningSide := by
  -- loads, switches and stops may stand for each other here, so the parts are told apart and not
  -- the actions
  cases hpart : a.listeningPart with
  | nothing =>
    rw [listeningSide_perform_of_nothing e hpart,
      listeningSide_perform_of_nothing e' (ha.symm.trans hpart), h]
  | start input =>
    have hpart' := ha.symm.trans hpart
    cases a with
    | start link =>
      cases a' with
      | start link' =>
        have hformat := ListeningPart.start.inj ha
        have hoptions : e.options = e'.options := congrArg ListeningSide.options h
        have hpeaks : e.monitor.peaks = e'.monitor.peaks := congrArg ListeningSide.peaks h
        show (e.start link).1.listeningSide = (e'.start link').1.listeningSide
        rw [(sides_start e link).2, (sides_start e' link').2, h, hformat, recordingCapacity,
          recordingCapacity, hoptions, hpeaks]
      | _ => cases hpart'
    | _ => cases hpart
  | process input count channels =>
    have hpart' := ha.symm.trans hpart
    cases a with
    | process call =>
      cases a' with
      | process call' =>
        obtain ⟨hinput, hcount, hchannels⟩ := ListeningPart.process.inj ha
        simp only [perform, answer, process, hinput, hcount, hchannels]
        apply capture_of_listeningSide
        rw [listeningSide_render, listeningSide_render, h]
      | _ => cases hpart'
    | _ => cases hpart

/-! ### Runs -/

theorem playingTrace_eq (h : e.playingSide = e'.playingSide) {actions actions' : List Action}
    (hparts : actions.map (·.playingPart) = actions'.map (·.playingPart)) :
    e.playingTrace actions = e'.playingTrace actions' := by
  -- both engines are general: their other halves drift apart from step to step
  induction actions generalizing e e' actions' with
  | nil =>
    obtain rfl := List.map_eq_nil_iff.mp hparts.symm
    rfl
  | cons a actions ih =>
    cases actions' with
    | nil => cases hparts
    | cons a' actions' =>
      obtain ⟨ha, hrest⟩ := List.cons.inj hparts
      obtain ⟨hside, hbuffer⟩ := playingSide_perform h ha
      rw [playingTrace, playingTrace, hside, hbuffer, ih hside hrest]

theorem listeningTrace_eq (h : e.listeningSide = e'.listeningSide)
    {actions actions' : List Action}
    (hparts : actions.map (·.listeningPart) = actions'.map (·.listeningPart)) :
    e.listeningTrace actions = e'.listeningTrace actions' := by
  induction actions generalizing e e' actions' with
  | nil =>
    obtain rfl := List.map_eq_nil_iff.mp hparts.symm
    rfl
  | cons a actions ih =>
    cases actions' with
    | nil => cases hparts
    | cons a' actions' =>
      obtain ⟨ha, hrest⟩ := List.cons.inj hparts
      have hside := listeningSide_perform h ha
      rw [listeningTrace, listeningTrace, hside, ih hside hrest]

end

/-- **Playing and listening do not interfere.** Compare two runs of an engine, action by action.  If
    they bring the same to the playing side, whatever they bring to the listening side, then the
    playing side is the same after every action, and every call leaves the same buffer.  If they
    bring the same to the listening side, then that side is the same after every action, whatever is
    loaded, switched and played. -/
theorem directions_do_not_interfere (e : Engine) (actions actions' : List Action) :
    (actions.map (·.playingPart) = actions'.map (·.playingPart) →
        e.playingTrace actions = e.playingTrace actions')
      ∧ (actions.map (·.listeningPart) = actions'.map (·.listeningPart) →
        e.listeningTrace actions = e.listeningTrace actions') :=
  ⟨playingTrace_eq rfl, listeningTrace_eq rfl⟩

/-- A link that plays one channel and hears one. -/
def oneInput : ScriptedLink :=
  { output := { rate := 2, channels := 1 }
    input := { rate := 1, channels := 1 }
    startResult := .ok ()
    stopResult := .ok () }

/-- A link with another input, which refuses to start. -/
def twoInputs : ScriptedLink :=
  { oneInput with
    input := { rate := 3, channels := 2 }
    startResult := .error (.refused "busy") }

def threeOutputs : ScriptedLink := { oneInput with output := { rate := 5, channels := 3 } }

/-- A clip of two frames is loaded, the link is started, and there is one call. -/
def loadStartCall (link : ScriptedLink) (call : Call) : List Action :=
  [.load { samples := #[.one, .negOne], frameCount := 2, channels := 1, rate := 2 }, .start link,
    .process call]

/-- Room for three frames on one channel, and one frame that was heard. -/
def threeFramesOut : Call :=
  { input := [.half], inputCount := 1, output := Frame.silence 3, outputCount := 3,
    channels := { input := 1, output := 1 } }

/-- Hearing two channels on a link that refuses to start gives the same playback as hearing one
    channel.  Playing on three channels, without a clip and with the loop mode switched off, gives
    the same recording. -/
theorem directions_do_not_interfere_on_other_links :
    let run := loadStartCall oneInput threeFramesOut
    let otherInput := loadStartCall twoInputs
      { threeFramesOut with input := Frame.silence 5, inputCount := 2,
                            channels := { input := 2, output := 1 } }
    let otherOutput : List Action :=
      [.loopMode false, .start threeOutputs,
        .process { threeFramesOut with output := [.one], channels := { input := 1, output := 3 } }]
    run.map (·.playingPart) = otherInput.map (·.playingPart)
      ∧ run.map (·.listeningPart) = otherOutput.map (·.listeningPart)
      ∧ ((new {}).playingTrace otherInput).map (·.2) = [none, none, some [.one, .negOne, .one]]
      ∧ ((new {}).listeningTrace otherOutput).map (·.recordedFrames) = [0, 0, 1] := by
  intro run otherInput otherOutput
  obtain ⟨hplaying, -⟩ := directions_do_not_interfere (new {}) run otherInput
  obtain ⟨-, hlistening⟩ := directions_do_not_interfere (new {}) run otherOutput
  refine ⟨rfl, rfl, ?_, ?_⟩
  · rw [← hplaying rfl]
    rfl
  · rw [← hlistening rfl]
    rfl

end Loopback.Engine
