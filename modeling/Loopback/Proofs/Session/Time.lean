import Loopback.Proofs.Session.Chronicle
import Mathlib.Algebra.GroupWithZero.Nat

/-! # The time law of an offline session

    A session does not depend on how the pumped time is split: pumping one duration after the other
    leaves the same session as pumping their sum, and makes as many callbacks.  The number of
    callbacks and the remainder follow from the time since the start, and the counters follow from
    the number of callbacks.

    * `Pumpable` is what a pump requires of a session; a pump preserves it (`Pumpable.pumped`).
    * `pump_pump` is the law for two durations, `pumpEach_eq` the one for any list of them.
    * `pumps_keep_time` is the law for every running session.
-/

namespace Loopback.Session

/-- Pumps one duration after the other with nothing in between, and collects the results. -/
def pumpEach (s : Session OfflineLink) :
    List Nat → Session OfflineLink × List (Except (Failure SessionError) Nat)
  | [] => (s, [])
  | elapsed :: durations =>
    let outcome := s.pump elapsed
    let (last, results) := outcome.session.pumpEach durations
    (last, outcome.result :: results)

/-- A running session over a link with channels; the time that is left does not fill a period. -/
structure Pumpable (d : OfflineDriver) (s : Session OfflineLink) : Prop where
  driver_eq : s.driver = some d
  running : s.isRunning = true
  input_pos : 0 < d.link.input.channels
  output_pos : 0 < d.link.output.channels
  pending_lt : d.pending < offlinePeriod

section

variable {d d' : OfflineDriver} {s : Session OfflineLink} {e' : Engine} {elapsed callbacks : Nat}

theorem Pumpable.pumped (h : Pumpable d s)
    (hrun : d.run s.engine elapsed = (d', e', some callbacks)) :
    Pumpable d' { s with engine := e', driver := some d' } := by
  have hlink := OfflineDriver.link_run h.input_pos h.output_pos s.engine elapsed
  have hrunning := OfflineDriver.running_run h.input_pos h.output_pos s.engine elapsed
  have hleft : (d.run s.engine elapsed).1.pending < offlinePeriod := by
    rw [OfflineDriver.run_eq h.input_pos h.output_pos]
    exact Nat.mod_lt _ offlinePeriod_pos
  rw [hrun] at hlink hrunning hleft
  dsimp only at hlink hrunning hleft
  constructor
  · rfl
  · exact hrunning.trans h.running
  · rw [hlink]
    exact h.input_pos
  · rw [hlink]
    exact h.output_pos
  · exact hleft

/-- A pump of no time changes nothing. -/
theorem Pumpable.pump_zero (h : Pumpable d s) :
    (s.pump 0).session = s ∧ (s.pump 0).result = .ok 0 := by
  have hnone : (d.pending + 0) / offlinePeriod = 0 := Nat.div_eq_of_lt h.pending_lt
  have hleft : (d.pending + 0) % offlinePeriod = d.pending := Nat.mod_eq_of_lt h.pending_lt
  have hrun := OfflineDriver.run_eq h.input_pos h.output_pos s.engine 0
  rw [hnone, hleft, OfflineDriver.runPeriods] at hrun
  rw [pump_of_run h.driver_eq h.running hrun, ← h.driver_eq]
  exact ⟨rfl, rfl⟩

/-- A pump finds all its inputs, whatever time passes. -/
theorem Pumpable.run_eq_some (h : Pumpable d s) (elapsed : Nat) :
    ∃ d' e' callbacks, d.run s.engine elapsed = (d', e', some callbacks) :=
  ⟨_, _, _, OfflineDriver.run_eq h.input_pos h.output_pos s.engine elapsed⟩

/-- Two pumps are one. -/
theorem Pumpable.pump_pump (h : Pumpable d s) (a b : Nat) :
    ∃ m n, (s.pump a).result = .ok m ∧ ((s.pump a).session.pump b).result = .ok n
      ∧ (s.pump (a + b)).session = ((s.pump a).session.pump b).session
      ∧ (s.pump (a + b)).result = .ok (m + n) := by
  obtain ⟨d₁, e₁, m, hfirst⟩ := h.run_eq_some a
  have hnext := h.pumped hfirst
  obtain ⟨d₂, e₂, n, hsecond⟩ := hnext.run_eq_some b
  have hwhole := OfflineDriver.run_run h.input_pos h.output_pos hfirst hsecond
  rw [pump_of_run h.driver_eq h.running hfirst, pump_of_run h.driver_eq h.running hwhole,
    pump_of_run hnext.driver_eq hnext.running hsecond]
  exact ⟨m, n, rfl, rfl, rfl, rfl⟩

/-- **Any number of pumps are one.** None of them crashes, and together they return as many
    callbacks as a pump of the sum. -/
theorem Pumpable.pumpEach_eq (h : Pumpable d s) (durations : List Nat) :
    ∃ counts : List Nat,
      s.pumpEach durations = ((s.pump durations.sum).session, counts.map .ok)
        ∧ (s.pump durations.sum).result = .ok counts.sum := by
  induction durations generalizing d s with
  | nil =>
    obtain ⟨hsession, hresult⟩ := h.pump_zero
    refine ⟨[], ?_, hresult⟩
    rw [pumpEach, List.sum_nil, hsession, List.map_nil]
  | cons a durations ih =>
    obtain ⟨d₁, e₁, k, hrun⟩ := h.run_eq_some a
    have hfirst := pump_of_run h.driver_eq h.running hrun
    obtain ⟨counts, hrest, htotal⟩ := ih (h.pumped hrun)
    obtain ⟨m, n, hm, hn, hsession, hresult⟩ := h.pump_pump a durations.sum
    rw [hfirst] at hm hn hsession
    -- the pumps after the first one return `n` callbacks in all
    obtain rfl : k = m := Except.ok.inj hm
    obtain rfl : counts.sum = n := Except.ok.inj (htotal.symm.trans hn)
    refine ⟨k :: counts, ?_, ?_⟩
    · rw [pumpEach, hfirst, hrest, List.sum_cons, hsession, List.map_cons]
    · rw [List.sum_cons, List.sum_cons, hresult]

end

/-- **The time law.** In every running session over a link with channels, any further pumps have the
    effect of one pump of their sum.  There was one callback for each whole period since the start,
    and the remainder is the time that does not fill a period.  The counters are a period of frames
    for each callback; for the played frames this holds if the clip looped throughout. -/
theorem pumps_keep_time (options : Options) (loopMode logTimings : Bool) (link : OfflineLink)
    (hlink : Audible link) (actions : List Action) :
    let t := Chronicled.run { session := offline options loopMode logTimings link } actions
    t.session.isRunning = true →
      ∃ c d, t.chronicle = some c ∧ t.session.driver = some d
        ∧ (∀ durations : List Nat, ∃ counts : List Nat,
            t.session.pumpEach durations
                = ((t.session.pump durations.sum).session, counts.map .ok)
              ∧ (t.session.pump durations.sum).result = .ok counts.sum)
        ∧ c.callbacks = c.time / offlinePeriod
        ∧ d.pending = c.time % offlinePeriod
        ∧ d.pending < offlinePeriod
        ∧ t.session.status.recordedFrames = c.callbacks * (link.input.rate / 100)
        ∧ (c.looping = true →
            t.session.status.playedFrames = c.callbacks * (link.output.rate / 100)) := by
  intro t hrunning
  have hfollows : Follows link options.maxRecordSeconds t.tape t.chronicle t.session :=
    (follows_offline options loopMode logTimings link).run hlink actions
  obtain ⟨c, hc⟩ := Option.ne_none_iff_exists'.mp (hfollows.running hrunning)
  obtain ⟨d, hd, hdoutput, hdinput, haccount⟩ := hfollows.driver hc
  have hleft : d.pending < offlinePeriod := by
    rw [haccount.pending_eq]
    exact Nat.mod_lt _ offlinePeriod_pos
  have hpumpable : Pumpable d t.session :=
    { driver_eq := hd
      running := hrunning
      input_pos := by rw [hdinput]; exact hlink.input_pos
      output_pos := by rw [hdoutput]; exact hlink.output_pos
      pending_lt := hleft }
  refine ⟨c, d, hc, hd, hpumpable.pumpEach_eq, haccount.callbacks_eq, haccount.pending_eq, hleft,
    ?_, ?_⟩
  · rw [← framesPerPeriod_eq, ← hdinput]
    exact haccount.recordedFrames_eq
  · intro hlooping
    rw [← framesPerPeriod_eq, ← hdoutput]
    exact (haccount.looping hlooping).2

/-- After two callbacks and a half, two short pumps make one callback more. -/
theorem uneven_pumps_keep_time :
    let t := Chronicled.run { session := offline { maxRecordSeconds := 1 } true false unevenLink }
      unevenPumps
    t.session.isRunning = true
      ∧ (t.session.pumpEach [3000000, 4000000]).1 = (t.session.pump 7000000).session
      ∧ t.session.status.recordedFrames = 4
      ∧ t.session.status.playedFrames = 6 := by
  intro t
  have hrunning : t.session.isRunning = true := by decide +kernel
  obtain ⟨c, d, hc, -, hpumps, hcallbacks, -, -, hrecorded, hplayed⟩ :=
    pumps_keep_time { maxRecordSeconds := 1 } true false unevenLink ⟨by decide, by decide⟩
      unevenPumps hrunning
  have hlog : t.chronicle.map (fun c => (c.time, c.looping)) = some (25000000, true) := by
    decide +kernel
  rw [hc] at hlog
  obtain ⟨htime, hlooping⟩ := Prod.mk.inj (Option.some.inj hlog)
  have htwo : c.callbacks = 2 := by
    rw [hcallbacks, htime]
    rfl
  rw [htwo] at hrecorded hplayed
  obtain ⟨counts, hsession, -⟩ := hpumps [3000000, 4000000]
  exact ⟨hrunning, congrArg Prod.fst hsession, hrecorded, hplayed hlooping⟩

end Loopback.Session
