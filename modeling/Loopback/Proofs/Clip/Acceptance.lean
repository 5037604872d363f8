import Loopback.Clip

/-! # Which audio becomes a clip

    Audio has to pass five tests, which are made in a fixed order.  If it passes all of them it
    becomes a clip of exactly as many samples as its counts say; if not, the first failing test
    gives the error.

    * `Audio.tests` are the tests and `Audio.fault?` is the error of the first one that fails.
    * `fault?_eq_none_iff` says when there is none.
    * `Clip.ofAudio_of_fault` and `Clip.ofAudio_of_sound` are the two outcomes.
-/

namespace Loopback

namespace Audio

/-- The tests that audio has to pass, in order, each with its error. -/
def tests (a : Audio) : List (Bool × LoadError) :=
  [(0 < a.samples.size, .missingData),
    (0 < a.frameCount, .zeroFrames),
    (0 < a.channels, .zeroChannels),
    (a.frameCount * a.channels < 2 ^ 64, .tooLarge a.frameCount a.channels),
    (a.frameCount * a.channels ≤ a.samples.size,
      .shortData (a.frameCount * a.channels) a.samples.size)]

def fault? (a : Audio) : Option LoadError := (a.tests.find? (!·.1)).map (·.2)

/-- Audio passes all tests exactly if its counts are positive, their product fits into 64 bits, and
    it has at least that many samples. -/
theorem fault?_eq_none_iff (a : Audio) :
    a.fault? = none
      ↔ 0 < a.samples.size ∧ 0 < a.frameCount ∧ 0 < a.channels
        ∧ a.frameCount * a.channels < 2 ^ 64 ∧ a.frameCount * a.channels ≤ a.samples.size := by
  simp [fault?, tests]

end Audio

namespace Clip

variable {a : Audio}

/-- The first failing test gives the error. -/
theorem ofAudio_of_fault {err : LoadError} (h : a.fault? = some err) : ofAudio a = .error err := by
  have hanswer {first : LoadError} (hfirst : a.fault? = some first) :
      (.error first : Except LoadError Clip) = .error err :=
    congrArg Except.error (Option.some.inj (hfirst.symm.trans h))
  unfold ofAudio
  -- the tests one by one, each for audio that has passed those before it
  split
  · next hsamples => exact hanswer (by simp [Audio.fault?, Audio.tests, hsamples])
  · next hsamples =>
    have hsamples' := Nat.pos_of_ne_zero hsamples
    split
    · next hframes => exact hanswer (by simp [Audio.fault?, Audio.tests, hsamples', hframes])
    · next hframes =>
      have hframes' := Nat.pos_of_ne_zero hframes
      split
      · next hchannels =>
        exact hanswer (by simp [Audio.fault?, Audio.tests, hsamples', hframes', hchannels])
      · next hchannels =>
        have hchannels' := Nat.pos_of_ne_zero hchannels
        split
        · next hmany =>
          have hmany' := Nat.not_lt_of_le hmany
          exact hanswer (by
            simp only [Audio.fault?, Audio.tests, List.find?_cons, hsamples', hframes', hchannels',
              hmany', decide_true, decide_false, Bool.not_true, Bool.not_false, Option.map_some])
        · next hfits =>
          have hfits' := Nat.lt_of_not_le hfits
          split
          · next hlack =>
            have hlack' := Nat.not_le_of_lt hlack
            exact hanswer (by
              simp only [Audio.fault?, Audio.tests, List.find?_cons, hsamples', hframes',
                hchannels', hfits', hlack', decide_true, decide_false, Bool.not_true,
                Bool.not_false, Option.map_some])
          · next henough =>
            have hnone := a.fault?_eq_none_iff.mpr
              ⟨hsamples', hframes', hchannels', hfits', Nat.le_of_not_lt henough⟩
            exact absurd (hnone.symm.trans h) (by simp)

/-- Audio without fault is a clip of its first samples, as many as its counts say, with those
    counts. -/
theorem ofAudio_of_sound (h : a.fault? = none) :
    ∃ clip, ofAudio a = .ok clip
      ∧ clip.samples.toList = a.samples.toList.take (a.frameCount * a.channels)
      ∧ clip.frameCount = a.frameCount ∧ clip.channels = a.channels ∧ clip.rate = a.rate := by
  obtain ⟨hsamples, hframes, hchannels, hfits, henough⟩ := a.fault?_eq_none_iff.mp h
  have hsamples' : ¬a.samples.size = 0 := Nat.ne_of_gt hsamples
  have hframes' : ¬a.frameCount = 0 := Nat.ne_of_gt hframes
  have hchannels' : ¬a.channels = 0 := Nat.ne_of_gt hchannels
  have hfits' : ¬2 ^ 64 ≤ a.frameCount * a.channels := Nat.not_le_of_lt hfits
  have henough' : ¬a.samples.size < a.frameCount * a.channels := Nat.not_lt_of_le henough
  simp only [ofAudio, hsamples', hframes', hchannels', hfits', henough', dite_false, if_false]
  exact ⟨_, rfl, by simp, rfl, rfl, rfl⟩

end Clip

end Loopback
