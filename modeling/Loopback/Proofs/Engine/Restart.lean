import Loopback.Proofs.Engine.Coherence

/-! # What a start leaves of an engine

    A start resets all state of an engine but a number: how often its board of peaks was reset.
    This number distinguishes tickets of earlier resets from the ticket of the latest one, and
    nothing else depends on it.

    * `readied` is a prepared engine, as a function of what it is prepared for.
    * `renumber` changes the number of resets.
    * `start_eq_readied` describes the engine after a start by these two.
    * `hiddenFromCalls_renumbered`: no callback shows the number.
-/

namespace Loopback.Engine

/-- An engine prepared for streams of two formats, on a board that was never reset. -/
def readied (options : Options) (clip : Option Clip) (loopMode : Bool)
    (output input : StreamFormat) (running : Bool) : Engine :=
  { options
    clip
    cursor := 0
    played := some (.new output.channels (options.maxRecordSeconds * output.rate))
    recorded := some (.new input.channels (options.maxRecordSeconds * input.rate))
    meters := List.replicate input.channels (.fresh options.peakDecay)
    ticket := .empty
    outputFormat := some output
    inputFormat := some input
    monitor :=
      { loopMode
        started := true
        running
        playedFrames := 0
        recordedFrames := 0
        position := 0
        skippedCallbacks := 0
        droppedInputFrames := 0
        peaks :=
          { generation := 0, levels := List.replicate input.channels Sample.zero } } }

/-- The engine with another number of resets, and with a ticket for the latest of them, so that its
    meters are still published. -/
def renumber (e : Engine) (generation : Nat) : Engine :=
  { e with
    ticket := ⟨generation⟩
    monitor := { e.monitor with peaks := { e.monitor.peaks with generation } } }

/-! ### Starting -/

theorem prepare_eq_readied (e : Engine) (output input : StreamFormat) :
    e.prepare output input
      = (readied e.options e.clip e.monitor.loopMode output input e.monitor.running).renumber
          (e.monitor.peaks.generation + 1) := rfl

/-- Whether the engine runs after a start: it does if the link started, and is as before if not. -/
def runsAfter {σ : Type} [Link σ] (e : Engine) (link : σ) : Bool :=
  match (Link.start link).2 with
  | .ok () => true
  | .error _ => e.monitor.running

/-- The state after a start depends on the options, the clip, the loop mode and the formats; if the
    start fails, also on whether the engine ran. -/
theorem start_eq_readied {σ : Type} [Link σ] (e : Engine) (link : σ) :
    (e.start link).1
      = (readied e.options e.clip e.monitor.loopMode (Link.outputFormat link)
            (Link.inputFormat link) (e.runsAfter link)).renumber
          (e.monitor.peaks.generation + 1) := by
  -- the link is asked last, after the engine has been prepared
  rcases hlink : Link.start link with ⟨after, result⟩
  cases result with
  | ok _ =>
    simp only [start, runsAfter, hlink]
    rfl
  | error err =>
    simp only [start, runsAfter, hlink]
    rfl

/-! ### The number does not matter -/

section

variable (e : Engine) (generation : Nat)

theorem load_renumber (a : Audio) :
    (e.renumber generation).load a = (e.load a).map (·.renumber generation) := by
  unfold load
  cases Clip.ofAudio a with
  | error err => rfl
  | ok clip => rfl

theorem render_renumber (output : List Sample) (count channels : Nat) :
    (e.renumber generation).render output count channels
      = ((e.render output count channels).1.renumber generation,
          (e.render output count channels).2) := by
  have hclip : (e.renumber generation).clip = e.clip := rfl
  unfold render
  rw [hclip]
  by_cases hc : channels = 0
  · rw [if_pos hc, if_pos hc]
  · rw [if_neg hc, if_neg hc]
    cases e.clip with
    | none => rfl
    | some clip => rfl

/-- Publishing works with the ticket of the latest reset, whatever its number. -/
theorem capture_renumber (hlive : e.ticket.generation = e.monitor.peaks.generation)
    (input : List Sample) (count channels : Nat) :
    (e.renumber generation).capture input count channels
      = (e.capture input count channels).renumber generation := by
  -- each of the two tickets is the latest one of its own board, so neither is turned away
  have hpublish (meters : List Meter) :
      (e.renumber generation).monitor.peaks.publish (e.renumber generation).ticket meters
        = { e.monitor.peaks.publish e.ticket meters with generation } := by
    have hlive' : (e.renumber generation).ticket.generation
        = (e.renumber generation).monitor.peaks.generation := rfl
    rw [PeakBoard.publish, PeakBoard.publish, if_pos hlive', if_pos hlive]
    rfl
  unfold capture
  by_cases hc : channels = 0
  · rw [if_pos hc, if_pos hc]
  · rw [if_neg hc, if_neg hc]
    simp only [hpublish]
    by_cases hsilent : min count (Frame.available channels input) = 0
    · simp only [hsilent, if_true]
      rfl
    · simp only [hsilent, if_false]
      rfl

end

/-- Calls cannot distinguish engines by their number of resets. -/
theorem hiddenFromCalls_renumbered (latest : Option (StreamFormat × StreamFormat)) :
    HiddenFromCalls fun e e' => e.Coherent latest ∧ ∃ generation, e' = e.renumber generation := by
  rintro e _ call ⟨h, generation, rfl⟩
  -- hearing needs a ticket that is still valid after playing
  have hplayed := h.render call.output call.outputCount call.channels.output
  have hkept := (keptByCallbacks_coherent latest).call e call h
  refine ⟨⟨hkept, generation, ?_⟩, ?_⟩
  · show ((e.renumber generation).render _ _ _).1.capture _ _ _ = _
    rw [render_renumber]
    exact capture_renumber _ generation hplayed.live ..
  · show ((e.renumber generation).render _ _ _).2 = _
    rw [render_renumber]
    rfl

end Loopback.Engine
