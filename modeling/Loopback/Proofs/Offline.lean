import Loopback.Offline
import Loopback.Proofs.Callback.Chunks

/-! # What the simulated link records

    The offline driver runs one callback for each period.  The frames that these callbacks take from
    the clip and bring to the engine are collected on a tape, which is read off the buffers of each
    callback, without looking at the engine's recordings.

    * `run_eq_runPeriods` gives the number of callbacks in closed form.
    * `OfflineDriver.periodTape` is the tape of one callback, `OfflineDriver.tape` the one of all
      callbacks that are due.
    * `Engine.Keeps` is the invariant: the recordings hold the first frames of the tape.
-/

namespace Loopback

/-- The frames that were played from the clip, and the frames that came in, oldest first. -/
structure Tape where
  played : List Frame := []
  heard : List Frame := []

namespace Tape

instance : Append Tape where
  append a b := { played := a.played ++ b.played, heard := a.heard ++ b.heard }

@[simp] theorem played_append (a b : Tape) : (a ++ b).played = a.played ++ b.played := rfl

@[simp] theorem heard_append (a b : Tape) : (a ++ b).heard = a.heard ++ b.heard := rfl

theorem append_empty (a : Tape) : a ++ {} = a := by
  show ({ played := a.played ++ [], heard := a.heard ++ [] } : Tape) = a
  rw [List.append_nil, List.append_nil]

theorem append_assoc (a b c : Tape) : a ++ b ++ c = a ++ (b ++ c) := by
  show ({ played := a.played ++ b.played ++ c.played,
          heard := a.heard ++ b.heard ++ c.heard } : Tape) = _
  rw [List.append_assoc, List.append_assoc]
  rfl

end Tape

namespace OfflineDriver

/-! ### The number of due callbacks -/

/-- Runs a number of callbacks one after the other.  A callback without input is the last one. -/
def runPeriods : Nat → OfflineDriver → Engine → OfflineDriver × Engine × Bool
  | 0, d, e => (d, e, true)
  | count + 1, d, e =>
    match d.runPeriod e with
    | (d, e, true) => runPeriods count d e
    | (d, e, false) => (d, e, false)

/-- Each callback spends a period, so the number of callbacks is the quotient of the pending time
    and the period. -/
theorem runDue_eq (d : OfflineDriver) (e : Engine) (callbacks : Nat) :
    d.runDue e callbacks
      = ((runPeriods (d.pending / offlinePeriod) d e).1,
          (runPeriods (d.pending / offlinePeriod) d e).2.1,
          if (runPeriods (d.pending / offlinePeriod) d e).2.2 then
            some (callbacks + d.pending / offlinePeriod)
          else none) := by
  fun_induction runDue d e callbacks with
  | case1 d e callbacks hdue d' e' hperiod ih =>
    have hleft : d'.pending = d.pending - offlinePeriod := by
      rw [← d.pending_runPeriod e, hperiod]
    have hcount : d.pending / offlinePeriod = d'.pending / offlinePeriod + 1 := by
      rw [hleft]
      exact Nat.div_eq_sub_div offlinePeriod_pos hdue
    have hrest : runPeriods (d.pending / offlinePeriod) d e
        = runPeriods (d'.pending / offlinePeriod) d' e' := by
      rw [hcount, runPeriods, hperiod]
    rw [ih, hrest, hcount, Nat.add_right_comm, Nat.add_assoc]
  | case2 d e callbacks hdue d' e' hperiod =>
    have hcount := Nat.div_eq_sub_div offlinePeriod_pos hdue
    have hlast : runPeriods (d.pending / offlinePeriod) d e = (d', e', false) := by
      rw [hcount, runPeriods, hperiod]
    rw [hlast]
    rfl
  | case3 d e callbacks hdue =>
    have hnone : d.pending / offlinePeriod = 0 := Nat.div_eq_of_lt (Nat.lt_of_not_le hdue)
    rw [hnone, runPeriods]
    rfl

/-- **The number of callbacks in closed form**: the number of whole periods in the elapsed time
    together with the time left over from before. -/
theorem run_eq_runPeriods (d : OfflineDriver) (e : Engine) (elapsed : Nat) :
    d.run e elapsed
      = let due := (d.pending + elapsed) / offlinePeriod
        let after := runPeriods due { d with pending := d.pending + elapsed } e
        (after.1, after.2.1, if after.2.2 then some due else none) := by
  rw [run, runDue_eq, Nat.zero_add]

/-! ### The tape -/

/-- The tape of the next callback: the frames of its output that it counts as played, and all whole
    frames of its input. -/
def periodTape (d : OfflineDriver) (e : Engine) : Tape :=
  let (after, engine, _) := d.runPeriod e
  { played :=
      Frame.cut d.link.output.channels (engine.monitor.playedFrames - e.monitor.playedFrames)
        after.lastOutput.toList
    heard :=
      match d.echo with
      | none => []
      | some input =>
        Frame.cut d.link.input.channels (Frame.available d.link.input.channels input) input }

/-- The tape of a number of callbacks. -/
def periodsTape : Nat → OfflineDriver → Engine → Tape
  | 0, _, _ => {}
  | count + 1, d, e =>
    d.periodTape e ++
      match d.runPeriod e with
      | (d, e, true) => periodsTape count d e
      | (_, _, false) => {}

/-- The tape of the callbacks that are due after `elapsed`. -/
def tape (d : OfflineDriver) (e : Engine) (elapsed : Nat) : Tape :=
  let d := { d with pending := d.pending + elapsed }
  periodsTape (d.pending / offlinePeriod) d e

end OfflineDriver

/-! ### What the engine keeps of it -/

/-- The engine was prepared for these formats, and its recordings hold the first frames of the tape.
    -/
structure Engine.Keeps (output input : StreamFormat) (seconds : Nat) (tape : Tape) (e : Engine) :
    Prop where
  outputFormat_eq : e.outputFormat = some output
  inputFormat_eq : e.inputFormat = some input
  played : ∃ r, e.played = some r ∧ r.Holds output.channels (seconds * output.rate) tape.played
  recorded : ∃ r, e.recorded = some r ∧ r.Holds input.channels (seconds * input.rate) tape.heard
  width_played : ∀ f ∈ tape.played, f.length = output.channels
  width_heard : ∀ f ∈ tape.heard, f.length = input.channels

section

variable {output input : StreamFormat} {seconds : Nat} {tape : Tape} {e : Engine}

/-- After a start the tape is empty. -/
theorem Engine.keeps_prepare (e : Engine) (hout : 0 < output.channels) (hin : 0 < input.channels) :
    Keeps output input e.options.maxRecordSeconds {} (e.prepare output input) := by
  have hplayed := Recording.holds_new output.channels (e.options.maxRecordSeconds * output.rate)
  have hrecorded := Recording.holds_new input.channels (e.options.maxRecordSeconds * input.rate)
  rw [Nat.max_eq_left hout] at hplayed
  rw [Nat.max_eq_left hin] at hrecorded
  exact ⟨rfl, rfl, ⟨_, rfl, hplayed⟩, ⟨_, rfl, hrecorded⟩, by simp, by simp⟩

/-- Only the formats and the recordings matter. -/
theorem Engine.Keeps.of_eq (h : e.Keeps output input seconds tape) {e' : Engine}
    (houtput : e'.outputFormat = e.outputFormat) (hinput : e'.inputFormat = e.inputFormat)
    (hplayed : e'.played = e.played) (hrecorded : e'.recorded = e.recorded) :
    e'.Keeps output input seconds tape where
  outputFormat_eq := by rw [houtput, h.outputFormat_eq]
  inputFormat_eq := by rw [hinput, h.inputFormat_eq]
  played := by rw [hplayed]; exact h.played
  recorded := by rw [hrecorded]; exact h.recorded
  width_played := h.width_played
  width_heard := h.width_heard

/-- The samples that were recorded are the first ones of the tape. -/
theorem Engine.Keeps.samples_recorded (h : e.Keeps output input seconds tape) :
    ∃ r, e.recorded = some r ∧ r.channels = input.channels ∧ r.capacity = seconds * input.rate
      ∧ r.samples = tape.heard.flatten.take (r.capacity * r.channels) := by
  obtain ⟨r, hr, hholds⟩ := h.recorded
  refine ⟨r, hr, hholds.channels_eq, hholds.capacity_eq, ?_⟩
  rw [Recording.samples, hholds.frames_of_length h.width_heard, Frame.flatten_take h.width_heard,
    hholds.capacity_eq, hholds.channels_eq]

end

/-! ### One callback -/

/-- A callback run by hand plays as many frames as are asked for, and hears its whole input. -/
theorem OfflineLink.pump_eq (l : OfflineLink) (hin : 0 < l.input.channels)
    (hout : 0 < l.output.channels) (e : Engine) (input : List Sample) (count : Nat) :
    l.pump e input count
      = ((e.afterPlaying l.output.channels count).afterHearing
            (Frame.cut l.input.channels (Frame.available l.input.channels input) input),
          e.block l.output.channels count) := by
  let channels : ChannelCounts := { input := l.input.channels, output := l.output.channels }
  have hin' : 0 < channels.input := hin
  have hprocess := process_silence e input count hin' hout
  simp only [channels] at hprocess
  simp only [pump, Nat.max_eq_left hin, hprocess, Frame.available]

namespace OfflineDriver

variable {d : OfflineDriver} {e : Engine}

/-- If the link has input channels, there is always an input. -/
theorem echo_of_channels (hin : 0 < d.link.input.channels) : ∃ input, d.echo = some input := by
  have hne : d.link.input.channels ≠ 0 := Nat.ne_of_gt hin
  by_cases hsilent : d.lastOutput.isEmpty || framesPerPeriod d.link.input.rate = 0
  · exact ⟨_, if_pos hsilent⟩
  · exact ⟨_, (if_neg hsilent).trans (if_neg hne)⟩

/-- The input is silent before the first output, and if no frame fits into a period. -/
theorem echo_of_silent (d : OfflineDriver)
    (h : d.lastOutput.isEmpty = true ∨ framesPerPeriod d.link.input.rate = 0) :
    d.echo = some (Frame.silence (framesPerPeriod d.link.input.rate * d.link.input.channels)) :=
  if_pos (by simpa using h)

/-- Frames with the echo of one sample on all channels. -/
def echoFrames (d : OfflineDriver) : List Frame :=
  (List.range (framesPerPeriod d.link.input.rate)).map fun i =>
    List.replicate d.link.input.channels (d.echoSample i)

@[simp] theorem length_echoFrames (d : OfflineDriver) :
    d.echoFrames.length = framesPerPeriod d.link.input.rate := by
  rw [echoFrames, List.length_map, List.length_range]

theorem length_of_mem_echoFrames {f : Frame} (hf : f ∈ d.echoFrames) :
    f.length = d.link.input.channels := by
  obtain ⟨i, -, rfl⟩ := List.mem_map.mp hf
  exact List.length_replicate

/-- Otherwise the input has these frames. -/
theorem echo_of_output (hin : 0 < d.link.input.channels) (hout : d.lastOutput.isEmpty = false)
    (hframes : framesPerPeriod d.link.input.rate ≠ 0) : d.echo = some d.echoFrames.flatten := by
  have hsilent : ¬(d.lastOutput.isEmpty || framesPerPeriod d.link.input.rate = 0) = true := by
    simp [hout, hframes]
  exact (if_neg hsilent).trans (if_neg (Nat.ne_of_gt hin))

/-- The input fills its period. -/
theorem length_echo (hin : 0 < d.link.input.channels) {input : List Sample}
    (h : d.echo = some input) :
    input.length = framesPerPeriod d.link.input.rate * d.link.input.channels := by
  by_cases hsilent : d.lastOutput.isEmpty = true ∨ framesPerPeriod d.link.input.rate = 0
  · rw [d.echo_of_silent hsilent] at h
    rw [← Option.some.inj h, Frame.length_silence]
  · have hout : d.lastOutput.isEmpty = false := by
      simpa using fun hempty => hsilent (Or.inl hempty)
    rw [echo_of_output hin hout fun hnone => hsilent (Or.inr hnone)] at h
    rw [← Option.some.inj h, Frame.length_flatten fun f => length_of_mem_echoFrames,
      length_echoFrames]

/-- The input does not depend on the time that is left. -/
theorem echo_pending (d : OfflineDriver) (pending : Nat) :
    ({ d with pending } : OfflineDriver).echo = d.echo := rfl

/-- A callback plays a period and hears its input. -/
theorem runPeriod_eq (hin : 0 < d.link.input.channels) (hout : 0 < d.link.output.channels)
    (e : Engine) {input : List Sample} (hecho : d.echo = some input) :
    d.runPeriod e
      = ({ d with
            pending := d.pending - offlinePeriod
            lastOutput := (e.block d.link.output.channels
              (framesPerPeriod d.link.output.rate)).toArray },
          (e.afterPlaying d.link.output.channels
            (framesPerPeriod d.link.output.rate)).afterHearing
              (Frame.cut d.link.input.channels (Frame.available d.link.input.channels input) input),
          true) := by
  have hecho' := (echo_pending d (d.pending - offlinePeriod)).trans hecho
  simp only [runPeriod, hecho', OfflineLink.pump_eq _ hin hout]

theorem periodTape_eq (hin : 0 < d.link.input.channels) (hout : 0 < d.link.output.channels)
    (e : Engine) {input : List Sample} (hecho : d.echo = some input) :
    d.periodTape e
      = { played := e.playing d.link.output.channels (framesPerPeriod d.link.output.rate)
          heard :=
            Frame.cut d.link.input.channels (Frame.available d.link.input.channels input)
              input } := by
  -- the callback has counted what it has played, and that stands in front of its output
  have hcount : ((e.afterPlaying d.link.output.channels (framesPerPeriod d.link.output.rate)
      ).afterHearing (Frame.cut d.link.input.channels
        (Frame.available d.link.input.channels input) input)).monitor.playedFrames
      - e.monitor.playedFrames
      = (e.playing d.link.output.channels (framesPerPeriod d.link.output.rate)).length := by
    obtain ⟨cursor, position, hplaying⟩ :=
      e.afterPlaying_eq d.link.output.channels (framesPerPeriod d.link.output.rate)
    rw [hplaying]
    exact Nat.add_sub_cancel_left ..
  have hwidth : ∀ f ∈ e.playing d.link.output.channels (framesPerPeriod d.link.output.rate),
      f.length = d.link.output.channels := fun f => Engine.length_of_mem_playing
  simp only [periodTape, runPeriod_eq hin hout e hecho, hecho, hcount, Engine.block]
  rw [Frame.cut_flatten hwidth]

/-- What callbacks leave alone: the link, the engine's options and whether it runs.  All of them
    find their input. -/
structure Ran (d : OfflineDriver) (e : Engine) (result : OfflineDriver × Engine × Bool) : Prop where
  link_eq : result.1.link = d.link
  options_eq : result.2.1.options = e.options
  running_eq : result.2.1.monitor.running = e.monitor.running
  complete : result.2.2 = true

theorem ran_runPeriod (hin : 0 < d.link.input.channels) (hout : 0 < d.link.output.channels)
    (e : Engine) : Ran d e (d.runPeriod e) := by
  obtain ⟨input, hecho⟩ := echo_of_channels hin
  -- stated for any time that is left, which avoids subtracting a period
  have hlink (left : Nat) (output : Array Sample) :
      ({ d with pending := left, lastOutput := output } : OfflineDriver).link = d.link := rfl
  obtain ⟨cursor, position, hplaying⟩ :=
    e.afterPlaying_eq d.link.output.channels (framesPerPeriod d.link.output.rate)
  rw [runPeriod_eq hin hout e hecho, hplaying]
  exact ⟨hlink _ _, rfl, rfl, rfl⟩

/-- One callback preserves the invariant: the tape grows by the frames of that callback. -/
theorem keeps_runPeriod {seconds : Nat} {tape : Tape} (hin : 0 < d.link.input.channels)
    (hout : 0 < d.link.output.channels)
    (h : e.Keeps d.link.output d.link.input seconds tape) :
    (d.runPeriod e).2.1.Keeps d.link.output d.link.input seconds (tape ++ d.periodTape e) := by
  obtain ⟨input, hecho⟩ := echo_of_channels hin
  obtain ⟨played, hplayed, hplayedHolds⟩ := h.played
  obtain ⟨recorded, hrecorded, hrecordedHolds⟩ := h.recorded
  obtain ⟨cursor, position, hplaying⟩ :=
    e.afterPlaying_eq d.link.output.channels (framesPerPeriod d.link.output.rate)
  rw [runPeriod_eq hin hout e hecho, periodTape_eq hin hout e hecho, hplaying]
  refine ⟨h.outputFormat_eq, h.inputFormat_eq, ⟨_, ?_, hplayedHolds.writeFrames _⟩,
    ⟨_, ?_, hrecordedHolds.writeFrames _⟩, ?_, ?_⟩
  · simp only [Engine.afterHearing, hplayed, Option.map_some]
  · simp only [Engine.afterHearing, hrecorded, Option.map_some]
  · intro f hf
    rcases List.mem_append.mp hf with hf | hf
    · exact h.width_played f hf
    · exact Engine.length_of_mem_playing hf
  · intro f hf
    rcases List.mem_append.mp hf with hf | hf
    · exact h.width_heard f hf
    · exact Frame.length_of_mem_cut (Frame.available_mul_le ..) hf

/-! ### Callbacks that follow each other -/

/-- Every callback finds its input, so none is the last one. -/
theorem runPeriod_complete (hin : 0 < d.link.input.channels) (hout : 0 < d.link.output.channels)
    (e : Engine) : d.runPeriod e = ((d.runPeriod e).1, (d.runPeriod e).2.1, true) := by
  rw [← (ran_runPeriod hin hout e).complete]

/-- A sequence of callbacks is the first one followed by the others. -/
theorem runPeriods_succ (hin : 0 < d.link.input.channels) (hout : 0 < d.link.output.channels)
    (count : Nat) (e : Engine) :
    runPeriods (count + 1) d e = runPeriods count (d.runPeriod e).1 (d.runPeriod e).2.1 := by
  conv => lhs; rw [runPeriods, runPeriod_complete hin hout e]

theorem periodsTape_succ (hin : 0 < d.link.input.channels) (hout : 0 < d.link.output.channels)
    (count : Nat) (e : Engine) :
    periodsTape (count + 1) d e
      = d.periodTape e ++ periodsTape count (d.runPeriod e).1 (d.runPeriod e).2.1 := by
  conv => lhs; rw [periodsTape, runPeriod_complete hin hout e]

theorem ran_runPeriods (hin : 0 < d.link.input.channels) (hout : 0 < d.link.output.channels)
    (count : Nat) (e : Engine) : Ran d e (runPeriods count d e) := by
  induction count generalizing d e with
  | zero => exact ⟨rfl, rfl, rfl, rfl⟩
  | succ count ih =>
    obtain ⟨hlink, hoptions, hrunning, -⟩ := ran_runPeriod hin hout e
    have hrest := ih (by rwa [hlink]) (by rwa [hlink]) (d.runPeriod e).2.1
    rw [runPeriods_succ hin hout]
    exact ⟨hrest.link_eq.trans hlink, hrest.options_eq.trans hoptions,
      hrest.running_eq.trans hrunning, hrest.complete⟩

theorem keeps_runPeriods {seconds : Nat} {tape : Tape} (hin : 0 < d.link.input.channels)
    (hout : 0 < d.link.output.channels) (h : e.Keeps d.link.output d.link.input seconds tape)
    (count : Nat) :
    (runPeriods count d e).2.1.Keeps d.link.output d.link.input seconds
      (tape ++ periodsTape count d e) := by
  induction count generalizing d e tape with
  | zero =>
    rw [runPeriods, periodsTape, Tape.append_empty]
    exact h
  | succ count ih =>
    have hlink := (ran_runPeriod hin hout e).link_eq
    have hstep := keeps_runPeriod hin hout h
    rw [runPeriods_succ hin hout, periodsTape_succ hin hout, ← Tape.append_assoc]
    -- the next callback is over the same link
    rw [← hlink] at hin hout hstep ⊢
    exact ih hin hout hstep

/-! ### Letting time pass -/

/-- However much time passes, all due callbacks find their input, and the engine keeps their frames.
    -/
theorem keeps_run {seconds : Nat} {tape : Tape} (hin : 0 < d.link.input.channels)
    (hout : 0 < d.link.output.channels) (h : e.Keeps d.link.output d.link.input seconds tape)
    (elapsed : Nat) :
    ∃ d' e' callbacks, d.run e elapsed = (d', e', some callbacks) ∧ d'.link = d.link
      ∧ e'.options = e.options ∧ e'.monitor.running = e.monitor.running
      ∧ e'.Keeps d.link.output d.link.input seconds (tape ++ d.tape e elapsed) := by
  let waiting : OfflineDriver := { d with pending := d.pending + elapsed }
  have hran := ran_runPeriods (d := waiting) hin hout (waiting.pending / offlinePeriod) e
  have hkeeps := keeps_runPeriods (d := waiting) hin hout h (waiting.pending / offlinePeriod)
  refine ⟨_, _, waiting.pending / offlinePeriod, ?_, hran.link_eq, hran.options_eq,
    hran.running_eq, hkeeps⟩
  rw [run_eq_runPeriods]
  show (_, _, if (runPeriods _ waiting e).2.2 then _ else none) = _
  rw [hran.complete]
  rfl

end OfflineDriver

end Loopback
