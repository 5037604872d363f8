import Loopback.Proofs.Engine.Coherence
import Loopback.Proofs.Engine.Counters
import Loopback.Proofs.Guarded.Callback

/-! # Runs on memory

    An engine on memory goes through the same runs as the model and never faults: no index is out of
    range, no number takes more than 64 bits, no difference is negative, nothing is divided by zero,
    and no loop takes more rounds than there are frames to fill.

    * `Action.Bounded` says which actions a run may have.  Starts are limited, since memory is
      allocated for recordings; counts and layouts of callbacks are not.
    * `of_perform` is one action, `of_run` a run of them.
    * `callback_never_faults` is a callback after any run.
-/

namespace Loopback

/-- A stream format for which recordings of some seconds can be allocated. -/
structure StreamFormat.Recordable (seconds : Nat) (f : StreamFormat) : Prop where
  rate_lt : f.rate < 2 ^ 32
  samples_lt : f.channels * seconds * f.rate < 2 ^ 64

namespace Engine

/-- A call whose buffers are in memory.  Its frame counts and channels may be anything. -/
structure Call.InMemory (call : Call) : Prop where
  input_lt : call.input.length < 2 ^ 64
  output_lt : call.output.length < 2 ^ 64

/-- Actions for which there is enough memory. -/
def Action.Bounded (seconds : Nat) : Action → Prop
  | @Action.start _ _ link =>
    (Link.outputFormat link).Recordable seconds ∧ (Link.inputFormat link).Recordable seconds
  | .process call => call.InMemory
  | .load _ | .loopMode _ | @Action.stop _ _ _ => True

end Engine

namespace StreamFormat.Recordable

variable {seconds : Nat} {f : StreamFormat}

theorem frames_lt (h : f.Recordable seconds) (hseconds : seconds < 2 ^ 32) :
    seconds * f.rate < 2 ^ 64 := by
  have hproduct : seconds * f.rate < 2 ^ 32 * 2 ^ 32 := Nat.mul_lt_mul'' hseconds h.rate_lt
  exact hproduct

/-- Without channels a recording still has one. -/
theorem size_lt (h : f.Recordable seconds) (hseconds : seconds < 2 ^ 32) :
    max f.channels 1 * (seconds * f.rate) < 2 ^ 64 := by
  rcases Nat.eq_zero_or_pos f.channels with hnone | hsome
  · rw [hnone, Nat.max_eq_right (Nat.zero_le _), Nat.one_mul]
    exact h.frames_lt hseconds
  · rw [Nat.max_eq_left hsome, ← Nat.mul_assoc]
    exact h.samples_lt

end StreamFormat.Recordable

namespace Working

open Guarded

/-! ### Actions -/

/-- Accepts audio that has as many samples as its counts say; surplus samples are left out. -/
def accept (a : Audio) : Except Fault (Except LoadError Audio) :=
  if a.samples.size = 0 then .ok (.error .missingData)
  else if a.frameCount = 0 then .ok (.error .zeroFrames)
  else if a.channels = 0 then .ok (.error .zeroChannels)
  else
    match mul a.frameCount a.channels with
    | .error _ => .ok (.error (.tooLarge a.frameCount a.channels))
    | .ok total =>
      if a.samples.size < total then .ok (.error (.shortData total a.samples.size))
      else do
        let samples ← slice a.samples.toList 0 total
        .ok (.ok { a with samples := samples.toArray })

def load (w : Working) (a : Audio) : Except Fault Working := do
  match ← accept a with
  | .error _ => .ok w
  | .ok clip =>
    .ok { w with clip := some clip, cursor := 0, monitor := { w.monitor with position := 0 } }

def prepare (w : Working) (output input : StreamFormat) : Except Fault Working := do
  let outputFrames ← mul w.options.maxRecordSeconds output.rate
  let played ← Store.prepare output.channels outputFrames
  let inputFrames ← mul w.options.maxRecordSeconds input.rate
  let recorded ← Store.prepare input.channels inputFrames
  let (peaks, ticket) := w.monitor.peaks.reset input.channels
  .ok
    { w with
      cursor := 0
      played := some played
      recorded := some recorded
      meters := List.replicate input.channels (.fresh w.options.peakDecay)
      ticket
      outputFormat := some output
      inputFormat := some input
      monitor :=
        { w.monitor with
          started := true
          playedFrames := 0
          recordedFrames := 0
          position := 0
          skippedCallbacks := 0
          droppedInputFrames := 0
          peaks } }

def setRunning (w : Working) (running : Bool) : Working :=
  { w with monitor := { w.monitor with running } }

def start {σ : Type} [Link σ] (w : Working) (link : σ) : Except Fault Working := do
  let w ← w.prepare (Link.outputFormat link) (Link.inputFormat link)
  match (Link.start link).2 with
  | .ok () => .ok (w.setRunning true)
  | .error _ => .ok w

def perform (w : Working) : Engine.Action → Except Fault Working
  | .load a => w.load a
  | .loopMode on => .ok { w with monitor := { w.monitor with loopMode := on } }
  | @Engine.Action.start _ _ link => w.start link
  | @Engine.Action.stop _ _ _ => .ok (w.setRunning false)
  | .process call => do
    let (w, _) ← w.answer call
    .ok w

def run (w : Working) (actions : List Engine.Action) : Except Fault Working :=
  actions.foldlM perform w

def new (options : Options) : Working := of (.new options)

/-! ### Absence of faults -/

/-- The claimed samples can be counted before any of them is read. -/
theorem accept_eq (a : Audio) : accept a = .ok ((Clip.ofAudio a).map (·.audio)) := by
  unfold accept Clip.ofAudio
  by_cases hdata : a.samples.size = 0
  · rw [if_pos hdata, if_pos hdata]
    rfl
  by_cases hframes : a.frameCount = 0
  · rw [if_neg hdata, if_neg hdata, if_pos hframes, dif_pos hframes]
    rfl
  by_cases hchannels : a.channels = 0
  · rw [if_neg hdata, if_neg hdata, if_neg hframes, dif_neg hframes, if_pos hchannels,
      dif_pos hchannels]
    rfl
  rw [if_neg hdata, if_neg hdata, if_neg hframes, dif_neg hframes, if_neg hchannels,
    dif_neg hchannels]
  by_cases hlarge : 2 ^ 64 ≤ a.frameCount * a.channels
  · have hmul : mul a.frameCount a.channels = .error .overflow := if_neg (Nat.not_lt.mpr hlarge)
    rw [if_pos hlarge, hmul]
    rfl
  · have hmul : mul a.frameCount a.channels = .ok (a.frameCount * a.channels) :=
      mul_of_lt (Nat.not_le.mp hlarge)
    rw [if_neg hlarge, hmul]
    dsimp only
    by_cases hshort : a.samples.size < a.frameCount * a.channels
    · rw [if_pos hshort, dif_pos hshort]
      rfl
    · have hslice : slice a.samples.toList 0 (a.frameCount * a.channels) = .ok _ :=
        slice_take (Nat.not_lt.mp hshort)
      have hextract : (a.samples.toList.take (a.frameCount * a.channels)).toArray
          = a.samples.extract 0 (a.frameCount * a.channels) := by
        apply Array.ext'
        simp
      rw [if_neg hshort, dif_neg hshort]
      simp only [bind, Except.bind, hslice, hextract]
      rfl

section

variable {e : Engine}

theorem of_load (a : Audio) : (of e).load a = .ok (of (e.perform (.load a))) := by
  rcases e.perform_load a with ⟨clip, hclip, heq⟩ | ⟨err, hclip, heq⟩
  · rw [heq]
    simp only [load, accept_eq, hclip, bind, Except.bind, Except.map]
    rfl
  · rw [heq]
    simp only [load, accept_eq, hclip, bind, Except.bind, Except.map]

theorem of_prepare (hseconds : e.options.maxRecordSeconds < 2 ^ 32) {output input : StreamFormat}
    (houtput : output.Recordable e.options.maxRecordSeconds)
    (hinput : input.Recordable e.options.maxRecordSeconds) :
    (of e).prepare output input = .ok (of (e.prepare output input)) := by
  have hoptions : (of e).options = e.options := rfl
  simp only [prepare, bind, Except.bind, hoptions, mul_of_lt (houtput.frames_lt hseconds),
    mul_of_lt (hinput.frames_lt hseconds), Store.prepare_eq (houtput.size_lt hseconds),
    Store.prepare_eq (hinput.size_lt hseconds)]
  rfl

theorem of_start {σ : Type} [Link σ] (hseconds : e.options.maxRecordSeconds < 2 ^ 32) (link : σ)
    (houtput : (Link.outputFormat link).Recordable e.options.maxRecordSeconds)
    (hinput : (Link.inputFormat link).Recordable e.options.maxRecordSeconds) :
    (of e).start link = .ok (of (e.start link).1) := by
  simp only [start, bind, Except.bind, of_prepare hseconds houtput hinput]
  unfold Engine.start
  rcases Link.start link with ⟨next, result⟩
  -- a start that is refused keeps what was prepared for it
  cases result with
  | ok _ => rfl
  | error _ => rfl

/-- **One action never faults**, whatever it is. -/
theorem of_perform (h : e.Addressable) (hseconds : e.options.maxRecordSeconds < 2 ^ 32)
    {a : Engine.Action} (ha : a.Bounded e.options.maxRecordSeconds) :
    (of e).perform a = .ok (of (e.perform a)) := by
  cases a with
  | load a => exact of_load a
  | loopMode on => rfl
  | start link => exact of_start hseconds link ha.1 ha.2
  | stop link => rfl
  | process call =>
    simp only [perform, bind, Except.bind, of_answer h ha.input_lt ha.output_lt]
    rfl

end

end Working

/-- The number of samples of an accepted clip fits into 64 bits. -/
theorem Clip.size_lt_of_ofAudio {a : Audio} {c : Clip} (h : Clip.ofAudio a = .ok c) :
    c.samples.size < 2 ^ 64 := by
  obtain ⟨hframes, hchannels, -⟩ := counts_of_ofAudio h
  rw [c.size_eq, hframes, hchannels]
  unfold ofAudio at h
  split at h
  · cases h
  · split at h
    · cases h
    · split at h
      · cases h
      · split at h
        · cases h
        · next hsmall => exact Nat.not_le.mp hsmall

namespace Engine

variable {e : Engine}

theorem addressable_new (options : Options) : (new options).Addressable where
  cursor_le _ h := by cases h
  clip_lt _ h := by cases h
  played _ h := by cases h
  recorded _ h := by cases h

/-- The recordings allocated for a start are addressable. -/
theorem Addressable.prepare (h : e.Addressable) (hseconds : e.options.maxRecordSeconds < 2 ^ 32)
    {output input : StreamFormat} (houtput : output.Recordable e.options.maxRecordSeconds)
    (hinput : input.Recordable e.options.maxRecordSeconds) :
    (e.prepare output input).Addressable where
  cursor_le _ _ := Nat.zero_le _
  clip_lt := h.clip_lt
  played := by
    rintro r ⟨⟩
    exact Recording.addressable_new (houtput.size_lt hseconds)
  recorded := by
    rintro r ⟨⟩
    exact Recording.addressable_new (hinput.size_lt hseconds)

theorem Addressable.perform (h : e.Addressable) (hseconds : e.options.maxRecordSeconds < 2 ^ 32)
    {a : Action} (ha : a.Bounded e.options.maxRecordSeconds) : (e.perform a).Addressable := by
  cases a with
  | load a =>
    rcases perform_load e a with ⟨clip, hclip, heq⟩ | ⟨err, -, heq⟩
    · rw [heq]
      refine { h with cursor_le := fun _ _ => Nat.zero_le _, clip_lt := ?_ }
      rintro c ⟨⟩
      exact Clip.size_lt_of_ofAudio hclip
    · rw [heq]
      exact h
  | loopMode on => exact { h with }
  | start link =>
    have hprepared := h.prepare hseconds ha.1 ha.2
    show (e.start link).1.Addressable
    rcases start_eq e link with heq | heq
    · rw [heq]
      exact hprepared
    · rw [heq]
      exact { hprepared with }
  | stop link => exact { h with }
  | process call => exact h.answer call

/-- The options of an engine never change. -/
theorem options_perform (e : Engine) (a : Action) : (e.perform a).options = e.options := by
  have haccounted : Accounted e.options none e := ⟨rfl, by simp, by simp⟩
  exact (haccounted.perform a).options_eq

end Engine

/-- **A run in memory never faults**, and has the same result, from which the engine can continue in
    memory. -/
theorem Working.of_run {e : Engine} (h : e.Addressable)
    (hseconds : e.options.maxRecordSeconds < 2 ^ 32) {actions : List Engine.Action}
    (hactions : ∀ a ∈ actions, a.Bounded e.options.maxRecordSeconds) :
    (of e).run actions = .ok (of (e.run actions)) ∧ (e.run actions).Addressable := by
  induction actions generalizing e with
  | nil => exact ⟨rfl, h⟩
  | cons a actions ih =>
    have ha := hactions a (List.mem_cons_self ..)
    -- the rest of the run has the same options
    have hoptions := e.options_perform a
    have hrest := ih (h.perform hseconds ha)
    rw [hoptions] at hrest
    obtain ⟨hrun, haddressable⟩ :=
      hrest hseconds fun b hb => hactions b (List.mem_cons_of_mem _ hb)
    rw [run, List.foldlM_cons, of_perform h hseconds ha]
    exact ⟨hrun, haddressable⟩

/-- **The callback never faults.** Take any sequence of loads, switches of the loop mode, starts,
    stops and callbacks, with streams for which recordings can be allocated.  Neither the run nor a
    callback after it, of any counts and layout, has an index or a slice out of range, a negative
    difference, a number of more than 64 bits, a division by zero, or more rounds than there are
    frames to fill.  Both have the same result as without memory. -/
theorem callback_never_faults (options : Options) (hseconds : options.maxRecordSeconds < 2 ^ 32)
    (actions : List Engine.Action)
    (hactions : ∀ a ∈ actions, a.Bounded options.maxRecordSeconds) (call : Engine.Call)
    (hcall : call.InMemory) :
    let e := (Engine.new options).run actions
    (Working.new options).run actions = .ok (.of e)
      ∧ (Working.of e).answer call = .ok (.of (e.answer call).1, (e.answer call).2) := by
  intro e
  obtain ⟨hrun, haddressable⟩ :=
    Working.of_run (Engine.addressable_new options) hseconds hactions
  exact ⟨hrun, Working.of_answer haddressable hcall.input_lt hcall.output_lt⟩

/-- A link with two channels each way. -/
def stereoLink : OfflineLink :=
  { output := { rate := 8000, channels := 2 }, input := { rate := 8000, channels := 2 } }

/-- A clip of two frames is played to its second frame and is then replaced by a clip of one frame,
    while the recordings and meters are those of a stream with two channels. -/
def reloaded : List Engine.Action :=
  [.load { samples := #[.one, .negOne], frameCount := 2, channels := 1, rate := 8000 },
    .start stereoLink,
    .process
      { input := [.one, .half, .one]
        inputCount := 1
        output := [.one]
        outputCount := 1
        channels := { input := 2, output := 1 } },
    .load { samples := #[.half], frameCount := 1, channels := 1, rate := 8000 }]

/-- A callback with more frames than it has room for, and with other layouts than the streams. -/
def oddCall : Engine.Call :=
  { input := [.one, .half]
    inputCount := 9
    output := [.one, .one, .one, .one]
    outputCount := 5
    channels := { input := 1, output := 3 } }

theorem odd_callback_never_faults :
    let options : Options := { maxRecordSeconds := 1 }
    let e := (Engine.new options).run reloaded
    options.maxRecordSeconds < 2 ^ 32
      ∧ (∀ a ∈ reloaded, a.Bounded options.maxRecordSeconds)
      ∧ oddCall.InMemory
      ∧ (Working.new options).run reloaded = .ok (.of e)
      ∧ ∃ w, (Working.of e).answer oddCall = .ok (w, [.half, .half, .half, .one]) := by
  intro options e
  have hseconds : options.maxRecordSeconds < 2 ^ 32 := by decide
  have hstream : StreamFormat.Recordable 1 { rate := 8000, channels := 2 } :=
    ⟨by decide, by decide⟩
  have hactions : ∀ a ∈ reloaded, a.Bounded options.maxRecordSeconds := by
    simp only [reloaded, List.forall_mem_cons, Engine.Action.Bounded]
    exact ⟨trivial, ⟨hstream, hstream⟩, ⟨by decide, by decide⟩, trivial, by simp⟩
  have hcall : oddCall.InMemory := ⟨by decide, by decide⟩
  obtain ⟨hrun, hanswer⟩ := callback_never_faults options hseconds reloaded hactions oddCall hcall
  have hbuffer : (e.answer oddCall).2 = [.half, .half, .half, .one] := by decide
  exact ⟨hseconds, hactions, hcall, hrun, _, hanswer.trans (by rw [← hbuffer])⟩

end Loopback
