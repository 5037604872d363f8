import Loopback.Proofs.Session.Chronicle

/-! # The echo law of an offline session

    The simulated microphone hears the output of the period before, at half its level and resampled
    to its own rate, with the first output channel on all of its channels.  It is silent at first,
    and what an earlier run played is not heard in a later one.  The recording has what the
    microphone heard, one period after the other, as far as there is room.
-/

namespace Loopback.Session

/-- **The echo law.** In every session over a link with channels that has been started, there is a
    pair of blocks for each callback since then.  The blocks obey the law of the echo, and the
    recording of what was heard holds them one after the other, cut at its capacity. -/
theorem microphone_hears_echo (options : Options) (loopMode logTimings : Bool)
    (link : OfflineLink) (hlink : Audible link) (actions : List Action) :
    let t := Chronicled.run { session := offline options loopMode logTimings link } actions
    ∀ c, t.chronicle = some c →
      c.periods.length = c.callbacks
        ∧ EchoLaw link.output link.input c.periods
        ∧ ∃ r, t.session.engine.recorded = some r ∧ r.channels = link.input.channels
          ∧ r.capacity = options.maxRecordSeconds * link.input.rate
          ∧ r.samples = (c.periods.flatMap (·.heard)).take (r.capacity * r.channels) := by
  intro t c hc
  have hfollows : Follows link options.maxRecordSeconds t.tape t.chronicle t.session :=
    (follows_offline options loopMode logTimings link).run hlink actions
  obtain ⟨d, -, hdoutput, hdinput, haccount⟩ := hfollows.driver hc
  have hlaw := haccount.echoes.law
  rw [hdoutput, hdinput] at hlaw
  have hshown := hfollows.shown (by rw [hc]; simp)
  obtain ⟨r, hr, hchannels, hcapacity, hsamples⟩ := hshown.samples_recorded
  rw [haccount.heard_eq] at hsamples
  exact ⟨haccount.length_periods, hlaw, r, hr, hchannels, hcapacity, hsamples⟩

/-- The first period hears nothing, and the second one hears two of the three frames of the first.
    -/
theorem uneven_microphone_hears_echo :
    let t := Chronicled.run { session := offline { maxRecordSeconds := 1 } true false unevenLink }
      unevenPumps
    ∃ c, t.chronicle = some c ∧ EchoLaw unevenLink.output unevenLink.input c.periods
      ∧ ∃ r, t.session.engine.recorded = some r
        ∧ r.samples = [.zero, .zero, .half, .negOne * .half] := by
  intro t
  have hlog : t.chronicle.map (fun c => c.periods.map (·.heard))
      = some [[.zero, .zero], [.half, .negOne * .half]] := by decide +kernel
  obtain ⟨c, hc, hheard⟩ := Option.map_eq_some_iff.mp hlog
  obtain ⟨-, hlaw, r, hr, hchannels, hcapacity, hsamples⟩ :=
    microphone_hears_echo { maxRecordSeconds := 1 } true false unevenLink ⟨by decide, by decide⟩
      unevenPumps c hc
  refine ⟨c, hc, hlaw, r, hr, ?_⟩
  rw [hsamples, hchannels, hcapacity, List.flatMap_def, hheard]
  rfl

end Loopback.Session
