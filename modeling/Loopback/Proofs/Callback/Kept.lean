import Loopback.Callback
import Loopback.Proofs.Engine.Run
import Loopback.Proofs.Offline

/-! # What calls preserve, callbacks preserve

    Callbacks reach an engine through calls, and otherwise only count skipped callbacks and lost
    frames.  So whatever a call preserves is preserved by the callbacks of devices and of the
    offline driver, however many calls they make.

    * `Engine.KeptByCallbacks` lists what has to be shown of a property of engines.
    * `Engine.HiddenFromCalls` is the same for a relation between two engines; callbacks then give
      the same results on both (`OfflineDriver.run_related`).
-/

namespace Loopback

namespace Engine

/-- A property of engines that callbacks preserve. -/
structure KeptByCallbacks (P : Engine → Prop) : Prop where
  call : ∀ e call, P e → P (e.answer call).1
  skipped : ∀ e : Engine, P e → P e.noteSkippedCallback
  dropped : ∀ (e : Engine) frames, P e → P (e.noteDroppedInput frames)

theorem KeptByCallbacks.and {P Q : Engine → Prop} (hP : KeptByCallbacks P)
    (hQ : KeptByCallbacks Q) : KeptByCallbacks fun e => P e ∧ Q e where
  call e call h := ⟨hP.call e call h.1, hQ.call e call h.2⟩
  skipped e h := ⟨hP.skipped e h.1, hQ.skipped e h.2⟩
  dropped e frames h := ⟨hP.dropped e frames h.1, hQ.dropped e frames h.2⟩

/-- A relation between engines that calls preserve, and that no buffer shows. -/
def HiddenFromCalls (R : Engine → Engine → Prop) : Prop :=
  ∀ e e' call, R e e' →
    R (e.answer call).1 (e'.answer call).1 ∧ (e'.answer call).2 = (e.answer call).2

end Engine

/-! ### The offline driver -/

/-- The call that a callback run by hand makes. -/
def OfflineLink.call (l : OfflineLink) (input : List Sample) (count : Nat) : Engine.Call :=
  { input
    inputCount := input.length / max l.input.channels 1
    output := Frame.silence (count * l.output.channels)
    outputCount := count
    channels := { input := l.input.channels, output := l.output.channels } }

namespace OfflineDriver

/-- The call of the next callback, if it has an input. -/
def call? (d : OfflineDriver) : Option Engine.Call :=
  d.echo.map fun input => d.link.call input (framesPerPeriod d.link.output.rate)

/-- The driver after a period, with the output of that period. -/
def spent (d : OfflineDriver) (output : Array Sample) : OfflineDriver :=
  { d with pending := d.pending - offlinePeriod, lastOutput := output }

theorem runPeriod_of_none {d : OfflineDriver} (h : d.call? = none) (e : Engine) :
    d.runPeriod e = (d.spent d.lastOutput, e, false) := by
  have hecho : d.echo = none := Option.map_eq_none_iff.mp h
  -- the input is looked for once the period is spent, which makes no difference to it
  have hspent := (echo_pending d (d.pending - offlinePeriod)).trans hecho
  simp only [runPeriod, hspent, spent]

theorem runPeriod_of_some {d : OfflineDriver} {call : Engine.Call} (h : d.call? = some call)
    (e : Engine) :
    d.runPeriod e = (d.spent (e.answer call).2.toArray, (e.answer call).1, true) := by
  obtain ⟨input, hecho, rfl⟩ := Option.map_eq_some_iff.mp h
  have hspent := (echo_pending d (d.pending - offlinePeriod)).trans hecho
  simp only [runPeriod, hspent, spent]
  rfl

theorem link_spent (d : OfflineDriver) (output : Array Sample) :
    (d.spent output).link = d.link := by
  -- stated for any time that is left, which avoids subtracting a period
  have hleft (left : Nat) :
      ({ d with pending := left, lastOutput := output } : OfflineDriver).link = d.link := rfl
  exact hleft _

theorem link_runPeriod (d : OfflineDriver) (e : Engine) : (d.runPeriod e).1.link = d.link := by
  cases hcall : d.call? with
  | none => rw [runPeriod_of_none hcall, link_spent]
  | some call => rw [runPeriod_of_some hcall, link_spent]

theorem link_runPeriods (count : Nat) (d : OfflineDriver) (e : Engine) :
    (runPeriods count d e).1.link = d.link := by
  induction count generalizing d e with
  | zero => rfl
  | succ count ih =>
    have hperiod := d.link_runPeriod e
    rw [runPeriods]
    revert hperiod
    rcases d.runPeriod e with ⟨after, between, complete⟩
    intro hperiod
    -- a callback that finds no input is the last one
    cases complete with
    | true => exact (ih after between).trans hperiod
    | false => exact hperiod

/-- The driver keeps its link. -/
theorem link_run_eq (d : OfflineDriver) (e : Engine) (elapsed : Nat) :
    (d.run e elapsed).1.link = d.link := by
  rw [run_eq_runPeriods]
  exact link_runPeriods _ { d with pending := d.pending + elapsed } e

/-- The driver with another answer of its link to the next start. -/
def refusing (d : OfflineDriver) (refusal : Option String) : OfflineDriver :=
  { d with link := { d.link with failNextStart := refusal } }

theorem refusing_spent (d : OfflineDriver) (refusal : Option String) (output : Array Sample) :
    (d.refusing refusal).spent output = (d.spent output).refusing refusal := by
  have hleft (left : Nat) :
      ({ d.refusing refusal with pending := left, lastOutput := output } : OfflineDriver)
        = ({ d with pending := left, lastOutput := output } : OfflineDriver).refusing refusal := rfl
  have hpending : (d.refusing refusal).pending = d.pending := rfl
  unfold spent
  rw [hpending]
  exact hleft _

section

variable {R : Engine → Engine → Prop} {e e' : Engine}

/-- A driver starts no link, so a callback does not depend on that answer. -/
theorem runPeriod_related (hR : Engine.HiddenFromCalls R) (d : OfflineDriver)
    (refusal : Option String) (h : R e e') :
    ∃ engine, (d.refusing refusal).runPeriod e'
        = ((d.runPeriod e).1.refusing refusal, engine, (d.runPeriod e).2.2)
      ∧ R (d.runPeriod e).2.1 engine := by
  have hcall : (d.refusing refusal).call? = d.call? := rfl
  cases hnext : d.call? with
  | none =>
    rw [runPeriod_of_none hnext, runPeriod_of_none (hcall.trans hnext), refusing_spent]
    exact ⟨e', rfl, h⟩
  | some call =>
    obtain ⟨hkept, hbuffer⟩ := hR e e' call h
    rw [runPeriod_of_some hnext, runPeriod_of_some (hcall.trans hnext), refusing_spent, hbuffer]
    exact ⟨(e'.answer call).1, rfl, hkept⟩

theorem runPeriods_related (hR : Engine.HiddenFromCalls R) (count : Nat) (d : OfflineDriver)
    (refusal : Option String) (h : R e e') :
    ∃ engine, runPeriods count (d.refusing refusal) e'
        = ((runPeriods count d e).1.refusing refusal, engine, (runPeriods count d e).2.2)
      ∧ R (runPeriods count d e).2.1 engine := by
  induction count generalizing d e e' with
  | zero => exact ⟨e', rfl, h⟩
  | succ count ih =>
    obtain ⟨engine, hperiod, hkept⟩ := runPeriod_related hR d refusal h
    rw [runPeriods, runPeriods, hperiod]
    revert hkept
    rcases d.runPeriod e with ⟨after, between, complete⟩
    intro hkept
    -- the callbacks end early on both sides, or on neither
    cases complete with
    | true => exact ih after hkept
    | false => exact ⟨engine, rfl, hkept⟩

/-- **Callbacks cannot distinguish engines that calls cannot distinguish**: any time gives the same
    number of callbacks and leaves the engines related. -/
theorem run_related (hR : Engine.HiddenFromCalls R) (d : OfflineDriver) (refusal : Option String)
    (h : R e e') (elapsed : Nat) :
    ∃ engine, (d.refusing refusal).run e' elapsed
        = ((d.run e elapsed).1.refusing refusal, engine, (d.run e elapsed).2.2)
      ∧ R (d.run e elapsed).2.1 engine := by
  -- a driver counts its periods whatever its link would say, so both run equally many
  let waiting : OfflineDriver := { d with pending := d.pending + elapsed }
  obtain ⟨engine, hperiods, hkept⟩ :=
    runPeriods_related hR (waiting.pending / offlinePeriod) waiting refusal h
  rw [run_eq_runPeriods, run_eq_runPeriods]
  refine ⟨engine, ?_, hkept⟩
  simp only [waiting, refusing] at hperiods
  simp only [refusing, hperiods]

end

/-- What a call preserves is preserved however much time passes. -/
theorem run_kept {P : Engine → Prop} (hP : Engine.KeptByCallbacks P) (d : OfflineDriver)
    {e : Engine} (h : P e) (elapsed : Nat) : P (d.run e elapsed).2.1 := by
  -- an engine that has the property is related to itself
  have hR : Engine.HiddenFromCalls fun e e' => P e ∧ e = e' := by
    rintro e _ call ⟨he, rfl⟩
    exact ⟨⟨hP.call e call he, rfl⟩, rfl⟩
  obtain ⟨engine, -, hkept, -⟩ := run_related hR d d.link.failNextStart ⟨h, rfl⟩ elapsed
  exact hkept

end OfflineDriver

/-! ### The callbacks of devices -/

section

variable {P : Engine → Prop} (hP : Engine.KeptByCallbacks P)

include hP

theorem renderChunks_kept {α : Type} (convert : Sample → α) (channels : ChannelCounts)
    (e : Engine) (captured : List Sample) (length : Nat) (h : P e) :
    P (renderChunks convert channels e captured length).1 := by
  -- on what is left of the buffer: a chunk is at least one sample long
  induction length using Nat.strongRecOn generalizing e captured with
  | ind length ih =>
    by_cases hlen : length = 0
    · simpa [renderChunks, hlen] using h
    · rw [renderChunks, if_neg hlen]
      have hchunk : 0 < min length (maxCallbackFrames * max channels.output 1) :=
        Nat.lt_min.mpr ⟨Nat.pos_of_ne_zero hlen, Nat.mul_pos (by decide) (by omega)⟩
      refine ih _ (by omega) _ [] ?_
      exact hP.call e
        { input := captured
          inputCount := captured.length / channels.input
          output := _
          outputCount := _
          channels } h

theorem renderCallback_kept {α : Type} (convert : Sample → α) (channels : ChannelCounts)
    (lock : EngineLock) (e : Engine) (ring : Ring) (length : Nat) (h : P e) :
    P (renderCallback convert channels lock e ring length).1 := by
  -- without the lock, the callback is only counted
  unfold renderCallback
  split
  · exact renderChunks_kept hP convert _ e _ length h
  · exact hP.skipped e h

theorem renderBuffer_kept (format : SampleFormat) (channels : ChannelCounts) (lock : EngineLock)
    (e : Engine) (ring : Ring) (length : Nat) (h : P e) :
    P (renderBuffer format channels lock e ring length).1 := by
  unfold renderBuffer
  split
  · exact renderCallback_kept hP Sample.toInt16 channels lock e ring length h
  · exact renderCallback_kept hP Sample.toUInt16 channels lock e ring length h
  · exact renderCallback_kept hP id channels lock e ring length h

theorem captureBuffer_kept (channels : Nat) (e : Engine) (ring : Ring) (data : DeviceBuffer)
    (h : P e) : P (captureBuffer channels e ring data).1 := by
  -- the samples are pushed into the ring; the engine only counts the frames that did not fit
  cases data with
  | f32 samples => exact hP.dropped e _ h
  | i16 samples => exact hP.dropped e _ h
  | u16 samples => exact hP.dropped e _ h

end

end Loopback
