import Loopback.Proofs.Offline

/-! # Time on the simulated link

    The callbacks do not depend on how time is split.  A callback is independent of the time that is
    left, so only the number of periods that have passed matters, and time that does not fill a
    period is kept for later.

    * `runPeriods_add`: callbacks may be run in two rounds.
    * `run_eq`: letting time pass runs a callback for each whole period and keeps the remainder.
    * `run_run`: letting time pass twice is letting it pass once.
    * `Counted` says what callbacks add to the counters of the engine.
-/

namespace Loopback

/-- A period has a hundredth of the frames of a second. -/
theorem framesPerPeriod_eq (rate : Nat) : framesPerPeriod rate = rate / 100 := by
  have hparts : (1000 : Nat) = 100 * offlineCallbackMillis := rfl
  rw [framesPerPeriod, hparts, Nat.mul_div_mul_right _ _ (by decide)]

namespace OfflineDriver

variable {d : OfflineDriver}

/-! ### Callbacks and the time that is left -/

/-- A callback is independent of the time that is left, and only subtracts a period from it. -/
theorem runPeriod_pending (d : OfflineDriver) (e : Engine) (pending : Nat) :
    ({ d with pending } : OfflineDriver).runPeriod e
      = ({ (d.runPeriod e).1 with pending := pending - offlinePeriod }, (d.runPeriod e).2) := by
  have hecho := d.echo_pending (pending - offlinePeriod)
  have hecho' := d.echo_pending (d.pending - offlinePeriod)
  cases h : d.echo with
  | none =>
    rw [h] at hecho hecho'
    simp only [runPeriod, hecho, hecho']
  | some input =>
    rw [h] at hecho hecho'
    simp only [runPeriod, hecho, hecho']

theorem runPeriods_pending (hin : 0 < d.link.input.channels) (hout : 0 < d.link.output.channels)
    (count : Nat) (e : Engine) (pending : Nat) :
    runPeriods count { d with pending } e
      = ({ (runPeriods count d e).1 with pending := pending - count * offlinePeriod },
          (runPeriods count d e).2) := by
  induction count generalizing d e pending with
  | zero => simp only [runPeriods, Nat.zero_mul, Nat.sub_zero]
  | succ count ih =>
    have hlink := (ran_runPeriod hin hout e).link_eq
    have hleft : pending - offlinePeriod - count * offlinePeriod
        = pending - (count + 1) * offlinePeriod := by
      rw [Nat.sub_sub, Nat.succ_mul, Nat.add_comm]
    rw [runPeriods_succ (d := { d with pending }) hin hout, runPeriod_pending,
      ih (by rwa [hlink]) (by rwa [hlink]), hleft, runPeriods_succ hin hout]

/-- Callbacks may be run in two rounds. -/
theorem runPeriods_add (hin : 0 < d.link.input.channels) (hout : 0 < d.link.output.channels)
    (m n : Nat) (e : Engine) :
    runPeriods (m + n) d e = runPeriods n (runPeriods m d e).1 (runPeriods m d e).2.1 := by
  induction m generalizing d e with
  | zero => rw [Nat.zero_add, runPeriods]
  | succ m ih =>
    have hlink := (ran_runPeriod hin hout e).link_eq
    rw [Nat.succ_add, runPeriods_succ hin hout, runPeriods_succ hin hout,
      ih (by rwa [hlink]) (by rwa [hlink])]

/-! ### Letting time pass -/

/-- The time gives the number of callbacks and the remainder. -/
theorem run_pending (hin : 0 < d.link.input.channels) (hout : 0 < d.link.output.channels)
    (e : Engine) (pending elapsed : Nat) :
    ({ d with pending } : OfflineDriver).run e elapsed
      = ({ (runPeriods ((pending + elapsed) / offlinePeriod) d e).1 with
            pending := (pending + elapsed) % offlinePeriod },
          (runPeriods ((pending + elapsed) / offlinePeriod) d e).2.1,
          some ((pending + elapsed) / offlinePeriod)) := by
  have hperiods := runPeriods_pending hin hout ((pending + elapsed) / offlinePeriod) e
    (pending + elapsed)
  have hcomplete := (ran_runPeriods hin hout ((pending + elapsed) / offlinePeriod) e).complete
  have hleft : pending + elapsed - (pending + elapsed) / offlinePeriod * offlinePeriod
      = (pending + elapsed) % offlinePeriod := by
    have hsplit := Nat.div_add_mod (pending + elapsed) offlinePeriod
    rw [Nat.mul_comm] at hsplit
    omega
  rw [hleft] at hperiods
  rw [run_eq_runPeriods]
  dsimp only
  rw [hperiods, hcomplete]
  rfl

theorem run_eq (hin : 0 < d.link.input.channels) (hout : 0 < d.link.output.channels) (e : Engine)
    (elapsed : Nat) :
    d.run e elapsed
      = ({ (runPeriods ((d.pending + elapsed) / offlinePeriod) d e).1 with
            pending := (d.pending + elapsed) % offlinePeriod },
          (runPeriods ((d.pending + elapsed) / offlinePeriod) d e).2.1,
          some ((d.pending + elapsed) / offlinePeriod)) :=
  run_pending hin hout e d.pending elapsed

theorem link_run (hin : 0 < d.link.input.channels) (hout : 0 < d.link.output.channels)
    (e : Engine) (elapsed : Nat) : (d.run e elapsed).1.link = d.link := by
  rw [run_eq hin hout e elapsed]
  exact (ran_runPeriods hin hout _ e).link_eq

theorem running_run (hin : 0 < d.link.input.channels) (hout : 0 < d.link.output.channels)
    (e : Engine) (elapsed : Nat) :
    (d.run e elapsed).2.1.monitor.running = e.monitor.running := by
  rw [run_eq hin hout e elapsed]
  exact (ran_runPeriods hin hout _ e).running_eq

/-- If the remainder of one time is added to another one, the periods in both add up to those in the
    sum. -/
theorem div_add_div_of_rest (a b : Nat) :
    a / offlinePeriod + (a % offlinePeriod + b) / offlinePeriod = (a + b) / offlinePeriod := by
  have hsplit : a + b = offlinePeriod * (a / offlinePeriod) + (a % offlinePeriod + b) := by
    have := Nat.div_add_mod a offlinePeriod
    omega
  rw [hsplit, Nat.mul_add_div offlinePeriod_pos]

/-- **Time may be split.** Letting time pass twice has the effect of letting the sum of both times
    pass. -/
theorem run_run (hin : 0 < d.link.input.channels) (hout : 0 < d.link.output.channels)
    {e e₁ e₂ : Engine} {d₁ d₂ : OfflineDriver} {a b m n : Nat}
    (hfirst : d.run e a = (d₁, e₁, some m)) (hsecond : d₁.run e₁ b = (d₂, e₂, some n)) :
    d.run e (a + b) = (d₂, e₂, some (m + n)) := by
  have hwhole := run_eq hin hout e (a + b)
  have hdue := div_add_div_of_rest (d.pending + a) b
  have hleft := Nat.mod_add_mod (d.pending + a) offlinePeriod b
  rw [← Nat.add_assoc, ← hdue, ← hleft] at hwhole
  rw [run_eq hin hout] at hfirst
  -- what is left of the first time is there when the second one passes
  generalize (d.pending + a) / offlinePeriod = due at hfirst hwhole
  generalize (d.pending + a) % offlinePeriod = left at hfirst hwhole
  have hlink : (runPeriods due d e).1.link = d.link := (ran_runPeriods hin hout due e).link_eq
  obtain ⟨rfl, hrest⟩ := Prod.mk.inj hfirst
  obtain ⟨rfl, hm⟩ := Prod.mk.inj hrest
  rw [run_pending (by rwa [hlink]) (by rwa [hlink]), ← runPeriods_add hin hout] at hsecond
  obtain ⟨rfl, hrest'⟩ := Prod.mk.inj hsecond
  obtain ⟨rfl, hn⟩ := Prod.mk.inj hrest'
  rw [hwhole, ← Option.some.inj hm, ← Option.some.inj hn]

/-! ### Counting -/

/-- What a number of callbacks adds to the counters of an engine: for each of them a period of heard
    frames, and a period of played frames if there is a clip that loops. -/
structure Counted (link : OfflineLink) (count : Nat) (e e' : Engine) : Prop where
  clip_eq : e'.clip = e.clip
  loopMode_eq : e'.monitor.loopMode = e.monitor.loopMode
  recordedFrames_eq : e'.monitor.recordedFrames
    = e.monitor.recordedFrames + count * framesPerPeriod link.input.rate
  playedFrames_eq : e.clip ≠ none → e.monitor.loopMode = true →
    e'.monitor.playedFrames = e.monitor.playedFrames + count * framesPerPeriod link.output.rate

theorem Counted.trans {link : OfflineLink} {m n : Nat} {e e₁ e₂ : Engine}
    (h : Counted link m e e₁) (h' : Counted link n e₁ e₂) : Counted link (m + n) e e₂ where
  clip_eq := by rw [h'.clip_eq, h.clip_eq]
  loopMode_eq := by rw [h'.loopMode_eq, h.loopMode_eq]
  recordedFrames_eq := by
    rw [h'.recordedFrames_eq, h.recordedFrames_eq, Nat.add_assoc, Nat.add_mul]
  playedFrames_eq := by
    intro hclip hloop
    have hclip' : e₁.clip ≠ none := by rwa [h.clip_eq]
    have hloop' : e₁.monitor.loopMode = true := by rwa [h.loopMode_eq]
    rw [h'.playedFrames_eq hclip' hloop', h.playedFrames_eq hclip hloop, Nat.add_assoc,
      Nat.add_mul]

theorem counted_runPeriod (hin : 0 < d.link.input.channels) (hout : 0 < d.link.output.channels)
    (e : Engine) : Counted d.link 1 e (d.runPeriod e).2.1 := by
  obtain ⟨input, hecho⟩ := echo_of_channels hin
  obtain ⟨cursor, position, hplaying⟩ :=
    e.afterPlaying_eq d.link.output.channels (framesPerPeriod d.link.output.rate)
  have hheard : Frame.available d.link.input.channels input
      = framesPerPeriod d.link.input.rate := by
    rw [Frame.available, length_echo hin hecho, Nat.mul_div_cancel _ hin]
  rw [runPeriod_eq hin hout e hecho, hplaying]
  refine ⟨rfl, rfl, ?_, ?_⟩
  · simp only [Engine.afterHearing, Frame.length_cut, hheard, Nat.one_mul]
  · intro hclip hloop
    simp only [Engine.afterHearing, Engine.length_playing_of_loop hclip hloop, Nat.one_mul]

theorem counted_runPeriods (hin : 0 < d.link.input.channels) (hout : 0 < d.link.output.channels)
    (count : Nat) (e : Engine) : Counted d.link count e (runPeriods count d e).2.1 := by
  induction count generalizing d e with
  | zero => exact ⟨rfl, rfl, by simp [runPeriods], by simp [runPeriods]⟩
  | succ count ih =>
    have hlink := (ran_runPeriod hin hout e).link_eq
    have hstep := counted_runPeriod hin hout e
    -- the next callback is over the same link
    have hrest := ih (by rwa [hlink]) (by rwa [hlink]) (d.runPeriod e).2.1
    rw [hlink] at hrest
    rw [runPeriods_succ hin hout, Nat.add_comm]
    exact hstep.trans hrest

theorem counted_run (hin : 0 < d.link.input.channels) (hout : 0 < d.link.output.channels)
    (e : Engine) (elapsed : Nat) :
    Counted d.link ((d.pending + elapsed) / offlinePeriod) e (d.run e elapsed).2.1 := by
  rw [run_eq hin hout e elapsed]
  exact counted_runPeriods hin hout _ e

end OfflineDriver

end Loopback
