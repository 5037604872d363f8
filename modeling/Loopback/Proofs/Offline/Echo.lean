import Loopback.Proofs.Offline.Time

/-! # The echo on the simulated link

    The simulated microphone hears the output of the period before, at half its level.

    * `Period` holds the two blocks of a callback; `OfflineDriver.periods` are those of a number of
      callbacks.
    * `EchoLaw` is the law for all of them, in terms of samples and their indices.
    * `OfflineDriver.Echoes` is the invariant: the callbacks so far obey the law, and the driver
      stores the output of the latest one.
-/

namespace Loopback

/-- The interleaved samples of one callback. -/
structure Period where
  /-- The block that was passed to the engine. -/
  heard : List Sample
  /-- The block that the engine rendered. -/
  rendered : List Sample

/-- The law for one period, given the one before it, if there was one.  A period has a hundredth of
    the frames of a second. -/
structure Period.Echoes (output input : StreamFormat) (previous : Option Period) (p : Period) :
    Prop where
  length_rendered : p.rendered.length = output.rate / 100 * output.channels
  length_heard : p.heard.length = input.rate / 100 * input.channels
  /-- The block is silent in the first period, and in all periods if no output frame fits into one.
      -/
  silent : previous = none ∨ output.rate / 100 = 0 →
    p.heard = Frame.silence (input.rate / 100 * input.channels)
  /-- Frame `i` has on all channels the first channel of an output frame at half its level: the
      frame at the same share of the period before. -/
  echo : ∀ q, previous = some q → 0 < output.rate / 100 → ∀ i < input.rate / 100,
    i * (output.rate / 100) / (input.rate / 100) < output.rate / 100
      ∧ ∃ s, q.rendered[i * (output.rate / 100) / (input.rate / 100) * output.channels]? = some s
        ∧ ∀ ch < input.channels, p.heard[i * input.channels + ch]? = some (s * Sample.half)

/-- The echo law for the periods since a start. -/
def EchoLaw (output input : StreamFormat) (periods : List Period) : Prop :=
  ∀ (k : Nat) (p : Period), periods[k]? = some p →
    p.Echoes output input (if k = 0 then none else periods[k - 1]?)

section

variable {output input : StreamFormat} {periods : List Period}

theorem echoLaw_nil : EchoLaw output input [] := by
  intro k p hk
  simp at hk

/-- A law about neighbours extends to one more neighbour. -/
theorem EchoLaw.snoc (h : EchoLaw output input periods) {p : Period}
    (hp : p.Echoes output input periods.getLast?) : EchoLaw output input (periods ++ [p]) := by
  intro k q hk
  by_cases hlt : k < periods.length
  · rw [List.getElem?_append_left hlt] at hk
    rw [List.getElem?_append_left (by omega)]
    exact h k q hk
  · have hlast : k = periods.length := by
      have hlen := (List.getElem?_eq_some_iff.mp hk).1
      rw [List.length_append, List.length_singleton] at hlen
      omega
    subst hlast
    have hq : q = p := by simpa using hk.symm
    rw [hq]
    by_cases hnil : periods = []
    · rw [hnil] at hp ⊢
      exact hp
    · have hpos := List.length_pos_iff.mpr hnil
      rw [if_neg (by omega), List.getElem?_append_left (by omega), ← List.getLast?_eq_getElem?]
      exact hp

end

namespace OfflineDriver

/-- The blocks of the next callback, if it has an input. -/
def nextPeriod (d : OfflineDriver) (e : Engine) : Option Period :=
  d.echo.map fun input =>
    { heard := input, rendered := (d.link.pump e input (framesPerPeriod d.link.output.rate)).2 }

/-- The blocks of a number of callbacks. -/
def periods : Nat → OfflineDriver → Engine → List Period
  | 0, _, _ => []
  | count + 1, d, e =>
    (d.nextPeriod e).toList ++
      match d.runPeriod e with
      | (d, e, true) => periods count d e
      | (_, _, false) => []

/-- The blocks of the callbacks that are due after `elapsed`. -/
def duePeriods (d : OfflineDriver) (e : Engine) (elapsed : Nat) : List Period :=
  let d := { d with pending := d.pending + elapsed }
  periods (d.pending / offlinePeriod) d e

variable {d : OfflineDriver}

/-! ### One callback -/

theorem nextPeriod_eq (hin : 0 < d.link.input.channels) (hout : 0 < d.link.output.channels)
    (e : Engine) {input : List Sample} (hecho : d.echo = some input) :
    d.nextPeriod e
      = some
          { heard := input
            rendered := e.block d.link.output.channels (framesPerPeriod d.link.output.rate) } := by
  simp only [nextPeriod, hecho, Option.map_some, OfflineLink.pump_eq _ hin hout]

/-- If the driver stores a block of output, every frame of the next input is taken from a frame of
    it. -/
theorem echo_frame (hin : 0 < d.link.input.channels) (hout : 0 < d.link.output.channels)
    (hsize : d.lastOutput.size = framesPerPeriod d.link.output.rate * d.link.output.channels)
    (hpos : 0 < framesPerPeriod d.link.output.rate) {input : List Sample}
    (hecho : d.echo = some input) {i : Nat} (hi : i < framesPerPeriod d.link.input.rate) :
    let source := i * framesPerPeriod d.link.output.rate / framesPerPeriod d.link.input.rate
    source < framesPerPeriod d.link.output.rate
      ∧ ∃ s, d.lastOutput.toList[source * d.link.output.channels]? = some s
        ∧ ∀ ch < d.link.input.channels,
          input[i * d.link.input.channels + ch]? = some (s * Sample.half) := by
  intro source
  have hframes : 0 < framesPerPeriod d.link.input.rate := Nat.lt_of_le_of_lt (Nat.zero_le i) hi
  -- the share of the period is less than one
  have hsource : source < framesPerPeriod d.link.output.rate := by
    rw [Nat.div_lt_iff_lt_mul hframes, Nat.mul_comm]
    exact Nat.mul_lt_mul_of_pos_left hi hpos
  have hindex : source * d.link.output.channels < d.lastOutput.size := by
    rw [hsize]
    exact Nat.mul_lt_mul_of_pos_right hsource hout
  have hsample : d.echoSample i
      = d.lastOutput[source * d.link.output.channels] * Sample.half := by
    simp only [echoSample, source]
    rw [Array.getElem?_eq_getElem hindex]
    rfl
  have hsome : d.lastOutput.isEmpty = false := by
    rw [Array.isEmpty_eq_false_iff_exists_mem]
    exact ⟨_, Array.getElem_mem hindex⟩
  refine ⟨hsource, d.lastOutput[source * d.link.output.channels], ?_, ?_⟩
  · rw [Array.getElem?_toList, Array.getElem?_eq_getElem hindex]
  · intro ch hch
    rw [echo_of_output hin hsome (Nat.ne_of_gt hframes)] at hecho
    rw [← Option.some.inj hecho, Frame.getElem?_flatten (fun f => length_of_mem_echoFrames)
      (by rwa [length_echoFrames]) hch]
    simp [echoFrames, hch, hsample]

/-! ### The invariant -/

/-- The callbacks so far obey the echo law, and the driver stores the latest output. -/
structure Echoes (d : OfflineDriver) (sofar : List Period) : Prop where
  law : EchoLaw d.link.output d.link.input sofar
  last_eq : d.lastOutput.toList = (sofar.getLast?.map (·.rendered)).getD []

/-- A driver that was reset has no output. -/
theorem echoes_reset (d : OfflineDriver) : Echoes d.reset [] :=
  ⟨echoLaw_nil, rfl⟩

/-- The stored output is a block that fills a period. -/
theorem Echoes.lastOutput_eq {sofar : List Period} (h : Echoes d sofar) {q : Period}
    (hq : sofar.getLast? = some q) :
    d.lastOutput.toList = q.rendered
      ∧ d.lastOutput.size = framesPerPeriod d.link.output.rate * d.link.output.channels := by
  have hlast : d.lastOutput.toList = q.rendered := by
    rw [h.last_eq, hq]
    rfl
  rw [List.getLast?_eq_getElem?] at hq
  refine ⟨hlast, ?_⟩
  rw [← Array.length_toList, hlast, (h.law _ q hq).length_rendered, framesPerPeriod_eq]

/-- The input of the next callback is the echo of the latest one. -/
theorem Echoes.next {sofar : List Period} (h : Echoes d sofar)
    (hin : 0 < d.link.input.channels) (hout : 0 < d.link.output.channels) (e : Engine)
    {input : List Sample} (hecho : d.echo = some input) :
    Period.Echoes d.link.output d.link.input sofar.getLast?
      { heard := input
        rendered := e.block d.link.output.channels (framesPerPeriod d.link.output.rate) } where
  length_rendered := by rw [Engine.length_block, framesPerPeriod_eq]
  length_heard := by rw [length_echo hin hecho, framesPerPeriod_eq]
  silent := by
    intro hsilent
    have hempty : d.lastOutput.isEmpty = true := by
      rw [Array.isEmpty_iff_size_eq_zero]
      cases hlast : sofar.getLast? with
      | none =>
        rw [← Array.length_toList, h.last_eq, hlast]
        rfl
      | some q =>
        have hnone : d.link.output.rate / 100 = 0 := by simpa [hlast] using hsilent
        rw [(h.lastOutput_eq hlast).2, framesPerPeriod_eq, hnone, Nat.zero_mul]
    rw [d.echo_of_silent (Or.inl hempty), framesPerPeriod_eq] at hecho
    exact (Option.some.inj hecho).symm
  echo := by
    intro q hq hpos i hi
    obtain ⟨hlast, hsize⟩ := h.lastOutput_eq hq
    rw [← framesPerPeriod_eq] at hpos hi
    rw [← framesPerPeriod_eq, ← framesPerPeriod_eq, ← hlast]
    exact echo_frame hin hout hsize hpos hecho hi

/-- One more callback preserves the invariant. -/
theorem Echoes.runPeriod {sofar : List Period} (h : Echoes d sofar)
    (hin : 0 < d.link.input.channels) (hout : 0 < d.link.output.channels) (e : Engine) :
    Echoes (d.runPeriod e).1 (sofar ++ (d.nextPeriod e).toList) := by
  obtain ⟨input, hecho⟩ := echo_of_channels hin
  have hlink : (d.runPeriod e).1.link = d.link := (ran_runPeriod hin hout e).link_eq
  have hlast : (d.runPeriod e).1.lastOutput
      = (e.block d.link.output.channels (framesPerPeriod d.link.output.rate)).toArray := by
    rw [runPeriod_eq hin hout e hecho]
  rw [nextPeriod_eq hin hout e hecho, Option.toList_some]
  constructor
  · rw [hlink]
    exact h.law.snoc (h.next hin hout e hecho)
  · rw [hlast, List.getLast?_concat]
    rfl

/-! ### Several callbacks -/

theorem periods_succ (hin : 0 < d.link.input.channels) (hout : 0 < d.link.output.channels)
    (count : Nat) (e : Engine) :
    periods (count + 1) d e
      = (d.nextPeriod e).toList ++ periods count (d.runPeriod e).1 (d.runPeriod e).2.1 := by
  conv => lhs; rw [periods, runPeriod_complete hin hout e]

/-- Every callback has its period. -/
theorem length_periods (hin : 0 < d.link.input.channels) (hout : 0 < d.link.output.channels)
    (count : Nat) (e : Engine) : (periods count d e).length = count := by
  induction count generalizing d e with
  | zero => rfl
  | succ count ih =>
    have hlink := (ran_runPeriod hin hout e).link_eq
    obtain ⟨input, hecho⟩ := echo_of_channels hin
    rw [periods_succ hin hout, nextPeriod_eq hin hout e hecho, Option.toList_some,
      List.length_append, List.length_singleton, ih (by rwa [hlink]) (by rwa [hlink]),
      Nat.add_comm]

theorem Echoes.runPeriods {sofar : List Period} (h : Echoes d sofar)
    (hin : 0 < d.link.input.channels) (hout : 0 < d.link.output.channels) (count : Nat)
    (e : Engine) : Echoes (runPeriods count d e).1 (sofar ++ periods count d e) := by
  induction count generalizing d e sofar with
  | zero =>
    rw [OfflineDriver.runPeriods, periods, List.append_nil]
    exact h
  | succ count ih =>
    have hlink := (ran_runPeriod hin hout e).link_eq
    have hstep := h.runPeriod hin hout e
    rw [runPeriods_succ hin hout, periods_succ hin hout, ← List.append_assoc]
    exact ih hstep (by rwa [hlink]) (by rwa [hlink]) (d.runPeriod e).2.1

/-- The input on the tape is made of the blocks passed to the engine. -/
theorem flatten_heard_periodsTape (hin : 0 < d.link.input.channels)
    (hout : 0 < d.link.output.channels) (count : Nat) (e : Engine) :
    (periodsTape count d e).heard.flatten = (periods count d e).flatMap (·.heard) := by
  induction count generalizing d e with
  | zero => rfl
  | succ count ih =>
    have hlink := (ran_runPeriod hin hout e).link_eq
    obtain ⟨input, hecho⟩ := echo_of_channels hin
    -- the block is whole frames, so cutting it leaves nothing out
    have hblock : (Frame.cut d.link.input.channels
        (Frame.available d.link.input.channels input) input).flatten = input := by
      rw [Frame.flatten_cut (Frame.available_mul_le ..), Frame.available, length_echo hin hecho,
        Nat.mul_div_cancel _ hin, ← length_echo hin hecho, List.take_length]
    rw [periodsTape_succ hin hout, periods_succ hin hout, nextPeriod_eq hin hout e hecho,
      periodTape_eq hin hout e hecho, Tape.heard_append, List.flatten_append, hblock,
      ih (by rwa [hlink]) (by rwa [hlink]), List.flatMap_append]
    simp

/-! ### Letting time pass -/

theorem Echoes.run {sofar : List Period} (h : Echoes d sofar) (hin : 0 < d.link.input.channels)
    (hout : 0 < d.link.output.channels) (e : Engine) (elapsed : Nat) :
    Echoes (d.run e elapsed).1 (sofar ++ d.duePeriods e elapsed) := by
  let waiting : OfflineDriver := { d with pending := d.pending + elapsed }
  have hwaiting : Echoes waiting sofar := ⟨h.law, h.last_eq⟩
  rw [run_eq_runPeriods]
  exact hwaiting.runPeriods hin hout (waiting.pending / offlinePeriod) e

theorem length_duePeriods (hin : 0 < d.link.input.channels) (hout : 0 < d.link.output.channels)
    (e : Engine) (elapsed : Nat) :
    (d.duePeriods e elapsed).length = (d.pending + elapsed) / offlinePeriod := by
  let waiting : OfflineDriver := { d with pending := d.pending + elapsed }
  exact length_periods (d := waiting) hin hout (waiting.pending / offlinePeriod) e

theorem flatten_heard_tape (hin : 0 < d.link.input.channels)
    (hout : 0 < d.link.output.channels) (e : Engine) (elapsed : Nat) :
    (d.tape e elapsed).heard.flatten = (d.duePeriods e elapsed).flatMap (·.heard) := by
  let waiting : OfflineDriver := { d with pending := d.pending + elapsed }
  exact flatten_heard_periodsTape (d := waiting) hin hout (waiting.pending / offlinePeriod) e

end OfflineDriver

end Loopback
