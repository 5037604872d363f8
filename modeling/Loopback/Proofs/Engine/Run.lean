import Loopback.Engine.Process

/-! # Runs of an engine

    An engine is loaded, started, stopped and called back in any order, over links that may answer
    anything.  A run is a list of such actions, performed one after the other.
-/

namespace Loopback.Engine

/-- The arguments of one audio callback. -/
structure Call where
  /-- Interleaved samples that were heard. -/
  input : List Sample
  /-- The number of frames that the input is said to hold. -/
  inputCount : Nat
  /-- The buffer to fill, with its content before the call. -/
  output : List Sample
  /-- The number of frames asked for. -/
  outputCount : Nat
  channels : ChannelCounts

/-- The number of frames that a call has room for. -/
def Call.frames (call : Call) : Nat :=
  min call.outputCount (Frame.available call.channels.output call.output)

/-- The effect of a call on an engine, and the buffer after it. -/
def answer (e : Engine) (call : Call) : Engine × List Sample :=
  e.process call.input call.inputCount call.output call.outputCount call.channels

inductive Action : Type 1 where
  | load (a : Audio)
  | loopMode (on : Bool)
  | start {σ : Type} [Link σ] (link : σ)
  | stop {σ : Type} [Link σ] (link : σ)
  | process (call : Call)

/-- The engine after an action.  Audio that is refused leaves it alone. -/
def perform (e : Engine) : Action → Engine
  | .load a =>
    match e.load a with
    | .ok loaded => loaded
    | .error _ => e
  | .loopMode on => e.setLoopMode on
  | @Action.start _ _ link => (e.start link).1
  | @Action.stop _ _ link => (e.stop link).1
  | .process call => (e.answer call).1

def run (e : Engine) (actions : List Action) : Engine := actions.foldl perform e

@[simp] theorem run_cons (e : Engine) (a : Action) (actions : List Action) :
    e.run (a :: actions) = (e.perform a).run actions := rfl

/-- Actions that rewind the cursor to the start of the clip: loads that succeed, and starts. -/
def Action.rewinds : Action → Bool
  | .load a => (Clip.ofAudio a).toBool
  | @Action.start _ _ _ => true
  | .loopMode _ | @Action.stop _ _ _ | .process _ => false

/-! ### What the controlling side does -/

/-- A start leaves the engine as it was prepared, running or not. -/
theorem start_eq {σ : Type} [Link σ] (e : Engine) (link : σ) :
    (e.start link).1 = e.prepare (Link.outputFormat link) (Link.inputFormat link)
      ∨ (e.start link).1
          = (e.prepare (Link.outputFormat link) (Link.inputFormat link)).setRunning true := by
  unfold start
  split
  · exact Or.inr rfl
  · exact Or.inl rfl

/-- A load that succeeds makes the audio the clip and rewinds. -/
theorem load_of_ok {e e' : Engine} {a : Audio} (h : e.load a = .ok e') :
    ∃ clip, Clip.ofAudio a = .ok clip ∧ e' = { e with
      clip := some clip, cursor := 0, monitor := { e.monitor with position := 0 } } := by
  unfold load at h
  cases hclip : Clip.ofAudio a with
  | ok clip =>
    rw [hclip] at h
    exact ⟨clip, rfl, (Except.ok.inj h).symm⟩
  | error err =>
    rw [hclip] at h
    exact absurd h (by simp [Except.map])

/-- A load either makes the audio the clip and rewinds, or changes nothing. -/
theorem perform_load (e : Engine) (a : Audio) :
    (∃ clip, Clip.ofAudio a = .ok clip ∧ e.perform (.load a)
        = { e with clip := some clip, cursor := 0, monitor := { e.monitor with position := 0 } })
      ∨ (∃ err, Clip.ofAudio a = .error err ∧ e.perform (.load a) = e) := by
  cases h : Clip.ofAudio a with
  | ok clip => exact Or.inl ⟨clip, rfl, by simp [perform, load, h, Except.map]⟩
  | error err => exact Or.inr ⟨err, rfl, by simp [perform, load, h, Except.map]⟩

end Loopback.Engine
