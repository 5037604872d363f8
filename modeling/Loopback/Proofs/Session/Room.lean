import Loopback.Proofs.Config.Acceptance
import Loopback.Proofs.Session.Chronicle
import Loopback.Proofs.Session.Export

/-! # Room for a run

    An accepted configuration has recordings that are at least as long as the run.  They have room
    for all of it: a period has the whole frames of a hundredth of a second, a second has a hundred
    periods, and the number of periods follows from the time.

    * `Tape.Within` bounds the length of a tape after a number of callbacks; each callback adds at
      most a period (`within_periodTape`), so a driver adds no more than is due (`within_tape`).
    * `within_perform` and `within_run` follow the tape of a session beside its chronicle.
    * `callbacks_mul_le` is the arithmetic, `accepted_run_has_room` the law for all runs.
-/

namespace Loopback

/-- A tape after a number of callbacks: each of them has added a period of heard frames, and at most
    a period of played frames. -/
structure Tape.Within (output input : StreamFormat) (callbacks : Nat) (tape : Tape) : Prop where
  length_played_le : tape.played.length ≤ callbacks * framesPerPeriod output.rate
  length_heard : tape.heard.length = callbacks * framesPerPeriod input.rate

section

variable {output input : StreamFormat}

theorem Tape.within_empty (output input : StreamFormat) : Tape.Within output input 0 {} where
  length_played_le := Nat.zero_le _
  length_heard := by rw [Nat.zero_mul]; rfl

theorem Tape.Within.append {m n : Nat} {a b : Tape} (ha : a.Within output input m)
    (hb : b.Within output input n) : (a ++ b).Within output input (m + n) where
  length_played_le := by
    rw [Tape.played_append, List.length_append, Nat.add_mul]
    exact Nat.add_le_add ha.length_played_le hb.length_played_le
  length_heard := by
    rw [Tape.heard_append, List.length_append, Nat.add_mul, ha.length_heard, hb.length_heard]

end

namespace OfflineDriver

variable {d : OfflineDriver}

theorem within_periodTape (hin : 0 < d.link.input.channels) (hout : 0 < d.link.output.channels)
    (e : Engine) : (d.periodTape e).Within d.link.output d.link.input 1 := by
  obtain ⟨input, hecho⟩ := echo_of_channels hin
  rw [periodTape_eq hin hout e hecho]
  constructor
  · rw [Nat.one_mul]
    exact e.length_playing_le _ _
  · rw [Nat.one_mul, Frame.length_cut, Frame.available, length_echo hin hecho,
      Nat.mul_div_cancel _ hin]

theorem within_periodsTape (hin : 0 < d.link.input.channels) (hout : 0 < d.link.output.channels)
    (count : Nat) (e : Engine) :
    (periodsTape count d e).Within d.link.output d.link.input count := by
  induction count generalizing d e with
  | zero => exact Tape.within_empty d.link.output d.link.input
  | succ count ih =>
    have hlink := (ran_runPeriod hin hout e).link_eq
    -- the next callback is over the same link
    have hrest := ih (by rwa [hlink]) (by rwa [hlink]) (d.runPeriod e).2.1
    rw [hlink] at hrest
    rw [periodsTape_succ hin hout, Nat.add_comm]
    exact (within_periodTape hin hout e).append hrest

/-- Letting time pass adds no more than is due. -/
theorem within_tape (hin : 0 < d.link.input.channels) (hout : 0 < d.link.output.channels)
    (e : Engine) (elapsed : Nat) :
    (d.tape e elapsed).Within d.link.output d.link.input
      ((d.pending + elapsed) / offlinePeriod) :=
  within_periodsTape (d := { d with pending := d.pending + elapsed }) hin hout _ e

end OfflineDriver

namespace Session

/-! ### The tape of a session -/

/-- The number of callbacks since the latest start, or 0 without one. -/
def callbacksOf (chronicle : Option Chronicle) : Nat := (chronicle.map (·.callbacks)).getD 0

section

variable {link : OfflineLink} {seconds : Nat} {tape : Tape} {chronicle : Option Chronicle}
  {s : Session OfflineLink}

/-- A start that reaches the link empties the tape.  There is no chronicle then, or a new one. -/
theorem within_start (h : Follows link seconds tape chronicle s)
    (hwithin : tape.Within link.output link.input (callbacksOf chronicle)) (now : Nat) :
    (s.tapeAfter tape (.start now)).Within link.output link.input
      (callbacksOf (s.chronicleAfter chronicle (.start now))) := by
  by_cases hnone : s.clip.isNone = true
  · simp only [tapeAfter, chronicleAfter, Session.start, hnone, Bool.true_or, if_true]
    exact hwithin
  · by_cases hrunning : s.isRunning = true
    · simp only [tapeAfter, chronicleAfter, Session.start, hnone, hrunning, Bool.or_true, if_true,
        Bool.false_eq_true, if_false]
      exact hwithin
    · simp only [tapeAfter, chronicleAfter, Session.start, hnone, hrunning, Bool.or_self,
        Bool.false_eq_true, if_false, Engine.start, Link.start, OfflineLink.start,
        Link.outputFormat, Link.inputFormat]
      cases hrefusal : s.link.failNextStart with
      | some reason =>
        have hnever : chronicle = none := h.refusal (by simp [hrefusal])
        subst hnever
        exact Tape.within_empty link.output link.input
      | none => exact Tape.within_empty link.output link.input

/-- A pump adds to the tape the callbacks that it counts. -/
theorem within_pump (h : Follows link seconds tape chronicle s) (hlink : Audible link)
    (hwithin : tape.Within link.output link.input (callbacksOf chronicle)) (elapsed : Nat) :
    (s.tapeAfter tape (.pump elapsed)).Within link.output link.input
      (callbacksOf (s.chronicleAfter chronicle (.pump elapsed))) := by
  obtain ⟨d, hd, hdoutput, hdinput⟩ := h.keeps.driver
  have hin : 0 < d.link.input.channels := by
    rw [hdinput]
    exact hlink.input_pos
  have hout : 0 < d.link.output.channels := by
    rw [hdoutput]
    exact hlink.output_pos
  by_cases hrunning : s.isRunning = true
  · obtain ⟨c, rfl⟩ := Option.ne_none_iff_exists'.mp (h.running hrunning)
    have hpump := pump_of_run hd hrunning (OfflineDriver.run_eq hin hout s.engine elapsed)
    have htape := OfflineDriver.within_tape hin hout s.engine elapsed
    rw [hdoutput, hdinput] at htape
    simp only [tapeAfter, chronicleAfter, hd, hrunning, if_true, hpump]
    exact hwithin.append htape
  · simp only [tapeAfter, chronicleAfter, hd, hrunning, Bool.false_eq_true, if_false]
    exact hwithin

/-- Every action preserves the bound. -/
theorem within_perform (h : Follows link seconds tape chronicle s) (hlink : Audible link)
    (hwithin : tape.Within link.output link.input (callbacksOf chronicle)) (a : Action) :
    (s.tapeAfter tape a).Within link.output link.input
      (callbacksOf (s.chronicleAfter chronicle a)) := by
  cases a with
  | start now => exact within_start h hwithin now
  | pump elapsed => exact within_pump h hlink hwithin elapsed
  | loopMode on =>
    have hsame :
        callbacksOf (s.chronicleAfter chronicle (.loopMode on)) = callbacksOf chronicle := by
      cases chronicle with
      | none => rfl
      | some c => rfl
    rw [hsame]
    exact hwithin
  | loadClip a => exact hwithin
  | loadFile files path => exact hwithin
  | stop now => exact hwithin
  | exportTo files kind dir now => exact hwithin

theorem within_run {t : Chronicled} (h : Follows link seconds t.tape t.chronicle t.session)
    (hlink : Audible link)
    (hwithin : t.tape.Within link.output link.input (callbacksOf t.chronicle))
    (actions : List Action) :
    (t.run actions).tape.Within link.output link.input (callbacksOf (t.run actions).chronicle) := by
  induction actions generalizing t with
  | nil => exact hwithin
  | cons a actions ih => exact ih (h.after hlink a) (within_perform h hlink hwithin a)

/-! ### Recordings with room -/

/-- The periods in some seconds have no more frames than these seconds. -/
theorem callbacks_mul_le {time : Nat} (htime : time ≤ seconds * 1000000000) (rate : Nat) :
    time / offlinePeriod * framesPerPeriod rate ≤ seconds * rate := by
  have hperiods : time / offlinePeriod ≤ 100 * seconds := by
    have hperiod : offlinePeriod = 10000000 := rfl
    rw [hperiod]
    omega
  calc time / offlinePeriod * framesPerPeriod rate
      ≤ 100 * seconds * (rate / 100) := by
        rw [framesPerPeriod_eq]
        exact Nat.mul_le_mul_right _ hperiods
    _ = seconds * (rate / 100 * 100) := by
        rw [Nat.mul_comm 100, Nat.mul_assoc, Nat.mul_comm 100]
    _ ≤ seconds * rate := Nat.mul_le_mul_left _ (Nat.div_mul_le_self ..)

/-- Each side of the tape fits into the recording of its direction. -/
theorem length_side_le (h : Follows link seconds tape chronicle s)
    (hwithin : tape.Within link.output link.input (callbacksOf chronicle))
    (htime : ∀ c, chronicle = some c → c.time ≤ seconds * 1000000000) (kind : RecordingKind) :
    (tape.side kind).length ≤ seconds * (link.side kind).rate := by
  have hroom : ∀ rate, callbacksOf chronicle * framesPerPeriod rate ≤ seconds * rate := by
    intro rate
    cases hc : chronicle with
    | none =>
      have hnone : callbacksOf none = 0 := rfl
      rw [hnone, Nat.zero_mul]
      exact Nat.zero_le _
    | some c =>
      obtain ⟨d, -, -, -, haccount⟩ := h.driver hc
      have hcallbacks : callbacksOf (some c) = c.time / offlinePeriod := haccount.callbacks_eq
      rw [hcallbacks]
      exact callbacks_mul_le (htime c hc) rate
  cases kind with
  | played => exact Nat.le_trans hwithin.length_played_le (hroom _)
  | recorded => exact Nat.le_trans (Nat.le_of_eq hwithin.length_heard) (hroom _)

end

end Session

namespace Session

/-- **An accepted run fits its recordings.** Take any accepted configuration, any simulated link
    with channels, and any sequence of operations on a session over it.  As long as the time pumped
    since the latest start does not exceed the length of the recordings, as is the case for a run of
    the configured length, neither recording has dropped a frame: one holds everything that was
    played since the start, the other one everything that was heard. -/
theorem accepted_run_has_room (c : Config) (files : FileTree)
    (haccepted : (c.validate files).2 = .ok ()) (link : OfflineLink) (hlink : Audible link)
    (actions : List Action) :
    let accepted := (c.validate files).1
    let t := Chronicled.run
      { session := offline accepted.options accepted.loopPlayback accepted.logTimings link } actions
    1 ≤ accepted.durationSecs ∧ accepted.durationSecs ≤ accepted.maxRecordSeconds
      ∧ ((∀ run, t.chronicle = some run → run.time ≤ accepted.maxRecordSeconds * 1000000000) →
          ∀ kind,
            (t.chronicle ≠ none → (t.session.recording? kind).isSome = true)
              ∧ ∀ r format, t.session.recording? kind = some (r, format) →
                r.dropped = 0 ∧ r.frames.toList = t.tape.side kind) := by
  intro accepted t
  have hwhole : c.validateIn files.fileSystem = (accepted, .ok ()) := Prod.ext rfl haccepted
  obtain ⟨hsecond, hlonger⟩ := (Config.numbersSound_of_validateIn hwhole).duration
  refine ⟨hsecond, hlonger, ?_⟩
  intro htime kind
  have hstart := follows_offline accepted.options accepted.loopPlayback accepted.logTimings link
  have hfollows : Follows link accepted.maxRecordSeconds t.tape t.chronicle t.session :=
    hstart.run hlink actions
  have hwithin : t.tape.Within link.output link.input (callbacksOf t.chronicle) :=
    within_run hstart hlink (Tape.within_empty _ _) actions
  have hlength := length_side_le hfollows hwithin htime kind
  constructor
  · intro hstarted
    obtain ⟨r, hr, -⟩ := recording_of_keeps (hfollows.shown hstarted) kind
    rw [hr]
    rfl
  · intro r format hr
    obtain ⟨r', hr', hholds, hwidth⟩ :=
      recording_of_keeps (hfollows.keeps.engine_of_recording hr) kind
    obtain ⟨rfl, -⟩ := Prod.mk.inj (Option.some.inj (hr.symm.trans hr'))
    constructor
    · rw [hholds.dropped_eq]
      exact Nat.sub_eq_zero_of_le hlength
    · rw [hholds.frames_of_length hwidth]
      exact List.take_of_length_le hlength

/-- A run of a second, with recordings of a second. -/
def oneSecondRun : Config :=
  { inputFile := some "a"
    durationSecs := 1
    maxRecordSeconds := 1
    noExport := true
    offline := true }

def clipTree : FileTree := { nodes := [(["a"], .file ByteArray.empty)] }

/-- A second in two pumps, the first of which ends just before the last callback. -/
def wholeSecond : List Action :=
  [.loadClip { samples := #[.one, .negOne], frameCount := 2, channels := 1, rate := 300 },
    .start 0,
    .pump 999999999,
    .pump 1]

/-- On a link of 300 frames per second out and 250 in, a second has a hundred callbacks of three
    frames out and two in.  The played frames fill their recording exactly. -/
theorem one_second_run_has_room :
    let accepted := (oneSecondRun.validate clipTree).1
    let t := Chronicled.run
      { session := offline accepted.options accepted.loopPlayback accepted.logTimings unevenLink }
      wholeSecond
    (oneSecondRun.validate clipTree).2 = .ok ()
      ∧ t.chronicle.map (·.time) = some (accepted.maxRecordSeconds * 1000000000)
      ∧ ∃ r format, t.session.recording? .played = some (r, format)
        ∧ r.dropped = 0 ∧ r.frames.toList = t.tape.played := by
  have hlocate : clipTree.locate "a" = .ok ["a"] := by
    simp only [FileTree.locate, FileTree.split_letter, bind, Except.bind]
    rfl
  have hsound : oneSecondRun.Sound clipTree.fileSystem :=
    ⟨(Config.numberFault?_eq_none_iff _).mp (by decide),
      (Config.deviceFault?_eq_none_iff _).mp (by decide),
      fun _ => ⟨⟨"a", ["a"], rfl, hlocate, by decide⟩, fun hexport => by cases hexport⟩⟩
  have hvalid : oneSecondRun.validate clipTree
      = ({ oneSecondRun with inputFile := some "/a" }, .ok ()) :=
    Config.validateIn_eq_ok_iff.mpr ⟨hsound, .inr ⟨rfl, "a", ["a"], rfl, hlocate, rfl⟩⟩
  intro accepted t
  have haccepted : (oneSecondRun.validate clipTree).2 = .ok () := congrArg Prod.snd hvalid
  have htime : t.chronicle.map (·.time) = some (accepted.maxRecordSeconds * 1000000000) := by
    simp only [t, accepted, hvalid]
    decide +kernel
  obtain ⟨-, -, hroom⟩ := accepted_run_has_room oneSecondRun clipTree haccepted unevenLink
    ⟨by decide, by decide⟩ wholeSecond
  have hshort : ∀ run, t.chronicle = some run →
      run.time ≤ accepted.maxRecordSeconds * 1000000000 := by
    intro run hrun
    rw [hrun] at htime
    exact Nat.le_of_eq (Option.some.inj htime)
  obtain ⟨hsome, hkept⟩ := hroom hshort .played
  have hstarted : t.chronicle ≠ none := by
    intro hnone
    rw [hnone] at htime
    cases htime
  obtain ⟨⟨r, format⟩, hr⟩ := Option.isSome_iff_exists.mp (hsome hstarted)
  exact ⟨haccepted, htime, r, format, hr, hkept r format hr⟩

end Session

end Loopback
