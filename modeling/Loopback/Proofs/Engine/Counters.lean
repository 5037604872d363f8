import Loopback.Proofs.Engine.Process
import Loopback.Proofs.Engine.Run

/-! # Counters and recordings

    An engine counts the frames of each direction twice: the monitor counts all of them, and the
    recording counts those it kept and those it had no room for.  The counts always agree, whatever
    the layout of the callbacks and the order of the starts.

    * `Recording.Balanced` relates a recording and a count, `Engine.Booked` a direction of an
      engine.
    * `Engine.Accounted` is the invariant: both directions are booked since the latest start.
-/

namespace Loopback

namespace Recording

/-- A recording accounts for all frames of a count: it holds the first ones, as many as there is
    room for, and has counted the others. -/
structure Balanced (r : Recording) (capacity count : Nat) : Prop where
  capacity_eq : r.capacity = capacity
  count_eq : count = r.written + r.dropped
  written_eq : r.written = min capacity count
  length_samples : r.samples.length = r.written * r.channels

variable {r : Recording} {width capacity : Nat} {offered : List Frame}

/-- Every frame of a recording has the recording's width. -/
theorem Holds.length_of_mem (h : r.Holds width capacity offered) {f : Frame}
    (hf : f ∈ r.frames.toList) : f.length = width := by
  rw [h.frames_eq] at hf
  obtain ⟨g, -, rfl⟩ := List.mem_map.mp (List.mem_of_mem_take hf)
  exact Frame.length_fit width g

theorem Holds.balanced (h : r.Holds width capacity offered) :
    r.Balanced capacity offered.length where
  capacity_eq := h.capacity_eq
  count_eq := by
    rw [h.written_eq, h.dropped_eq]
    omega
  written_eq := h.written_eq
  length_samples := by
    rw [samples, Frame.length_flatten fun f => h.length_of_mem, h.channels_eq, written,
      Array.length_toList]

end Recording

namespace Engine

/-- One direction since a start in some format: there is a recording, and it was offered as many
    frames as the monitor has counted. -/
def Booked (seconds : Nat) (format : StreamFormat) (recording : Option Recording) (count : Nat) :
    Prop :=
  ∃ r offered, recording = some r
    ∧ r.Holds (max format.channels 1) (seconds * format.rate) offered ∧ offered.length = count

section

variable {seconds count : Nat} {format : StreamFormat} {recording : Option Recording}

/-- A start begins a new recording and a new count. -/
theorem booked_new (seconds : Nat) (format : StreamFormat) :
    Booked seconds format (some (.new format.channels (seconds * format.rate))) 0 :=
  ⟨_, [], rfl, Recording.holds_new format.channels (seconds * format.rate), rfl⟩

/-- New frames are both recorded and counted. -/
theorem Booked.writeFrames (h : Booked seconds format recording count) (frames : List Frame) :
    Booked seconds format (recording.map (·.writeFrames frames)) (count + frames.length) := by
  obtain ⟨r, offered, rfl, hholds, rfl⟩ := h
  exact ⟨_, offered ++ frames, rfl, hholds.writeFrames frames, List.length_append⟩

theorem Booked.balanced (h : Booked seconds format recording count) :
    ∃ r, recording = some r ∧ r.Balanced (seconds * format.rate) count := by
  obtain ⟨r, offered, hr, hholds, rfl⟩ := h
  exact ⟨r, hr, hholds.balanced⟩

end

/-! ### The invariant -/

/-- The output and the input format of a start. -/
def Action.formats? : Action → Option (StreamFormat × StreamFormat)
  | @Action.start _ _ link => some (Link.outputFormat link, Link.inputFormat link)
  | .load _ | .loopMode _ | @Action.stop _ _ _ | .process _ => none

/-- The formats of the latest start, given those of the latest one before the actions. -/
def latestFormats (before : Option (StreamFormat × StreamFormat)) (actions : List Action) :
    Option (StreamFormat × StreamFormat) :=
  actions.foldl (fun latest a => a.formats?.or latest) before

/-- Both directions are booked since the latest start, if there was one. -/
structure Accounted (options : Options) (latest : Option (StreamFormat × StreamFormat))
    (e : Engine) : Prop where
  options_eq : e.options = options
  played : ∀ output input, latest = some (output, input) →
    Booked options.maxRecordSeconds output e.played e.monitor.playedFrames
  recorded : ∀ output input, latest = some (output, input) →
    Booked options.maxRecordSeconds input e.recorded e.monitor.recordedFrames

theorem accounted_new (options : Options) : Accounted options none (new options) :=
  ⟨rfl, by simp, by simp⟩

section

variable {options : Options} {latest : Option (StreamFormat × StreamFormat)} {e e' : Engine}

/-- Only the recordings and the two counters matter. -/
theorem Accounted.of_eq (h : Accounted options latest e) (hoptions : e'.options = e.options)
    (hplayed : e'.played = e.played) (hrecorded : e'.recorded = e.recorded)
    (hplays : e'.monitor.playedFrames = e.monitor.playedFrames)
    (hhears : e'.monitor.recordedFrames = e.monitor.recordedFrames) :
    Accounted options latest e' where
  options_eq := by rw [hoptions, h.options_eq]
  played := by
    rw [hplayed, hplays]
    exact h.played
  recorded := by
    rw [hrecorded, hhears]
    exact h.recorded

/-- A start that the link refuses begins new recordings, too. -/
theorem Accounted.start {σ : Type} [Link σ] (h : Accounted options latest e) (link : σ) :
    Accounted options (some (Link.outputFormat link, Link.inputFormat link)) (e.start link).1 := by
  have hprepared : Accounted options (some (Link.outputFormat link, Link.inputFormat link))
      (e.prepare (Link.outputFormat link) (Link.inputFormat link)) := by
    refine ⟨h.options_eq, ?_, ?_⟩
    · intro output input heq
      obtain ⟨rfl, rfl⟩ := Prod.mk.inj (Option.some.inj heq)
      rw [← h.options_eq]
      exact booked_new e.options.maxRecordSeconds _
    · intro output input heq
      obtain ⟨rfl, rfl⟩ := Prod.mk.inj (Option.some.inj heq)
      rw [← h.options_eq]
      exact booked_new e.options.maxRecordSeconds _
  rcases start_eq e link with heq | heq
  · rw [heq]
    exact hprepared
  · rw [heq]
    exact hprepared.of_eq rfl rfl rfl rfl rfl

/-- What is played is counted and recorded at once. -/
theorem Accounted.render (h : Accounted options latest e) (output : List Sample)
    (count channels : Nat) : Accounted options latest (e.render output count channels).1 := by
  by_cases hc : channels = 0
  · simpa [Engine.render, hc] using h
  · rw [render_eq e output count hc]
    obtain ⟨cursor, position, hplaying⟩ :=
      e.afterPlaying_eq channels (min count (Frame.available channels output))
    rw [hplaying]
    exact ⟨h.options_eq, fun out inp heq => (h.played out inp heq).writeFrames _, h.recorded⟩

/-- Heard frames are, too, in one block or frame by frame. -/
theorem Accounted.capture (h : Accounted options latest e) (input : List Sample)
    (count channels : Nat) : Accounted options latest (e.capture input count channels) := by
  by_cases hc : channels = 0
  · simpa [Engine.capture, hc] using h
  · rw [capture_eq e input count hc]
    exact ⟨h.options_eq, h.played, fun out inp heq => (h.recorded out inp heq).writeFrames _⟩

/-- Every action preserves the invariant. -/
theorem Accounted.perform (h : Accounted options latest e) (a : Action) :
    Accounted options (a.formats?.or latest) (e.perform a) := by
  cases a with
  | load a =>
    rcases perform_load e a with ⟨clip, -, heq⟩ | ⟨err, -, heq⟩
    · rw [heq]
      exact h.of_eq rfl rfl rfl rfl rfl
    · rw [heq]
      exact h
  | loopMode on => exact h.of_eq rfl rfl rfl rfl rfl
  | start link => exact h.start link
  | stop link => exact h.of_eq rfl rfl rfl rfl rfl
  | process call =>
    exact (h.render call.output call.outputCount call.channels.output).capture call.input
      call.inputCount call.channels.input

theorem Accounted.run (h : Accounted options latest e) (actions : List Action) :
    Accounted options (latestFormats latest actions) (e.run actions) := by
  induction actions generalizing latest e with
  | nil => exact h
  | cons a actions ih => exact ih (h.perform a)

end

/-- **Counters and recordings never disagree.** For any sequence of loads, switches of the loop
    mode, starts, stops and callbacks, whether or not a start is refused or a callback has the
    layout of the streams: since the latest start each direction has a recording with room for its
    seconds at the rate of that direction.  The monitor has counted the frames that the recording
    kept and those that it dropped, and it dropped frames only once it was full. -/
theorem counters_match_recordings (options : Options) (actions : List Action)
    (output input : StreamFormat) (hstart : latestFormats none actions = some (output, input)) :
    let e := (new options).run actions
    (∃ r, e.played = some r
        ∧ r.Balanced (options.maxRecordSeconds * output.rate) e.monitor.playedFrames)
      ∧ ∃ r, e.recorded = some r
        ∧ r.Balanced (options.maxRecordSeconds * input.rate) e.monitor.recordedFrames := by
  intro e
  have h := (accounted_new options).run actions
  exact ⟨(h.played output input hstart).balanced, (h.recorded output input hstart).balanced⟩

/-- Two channels out and one in, at two frames and one frame per second; the start is refused. -/
def refusingLink : ScriptedLink :=
  { output := { rate := 2, channels := 2 }
    input := { rate := 1, channels := 1 }
    startResult := .error (.refused "busy")
    stopResult := .ok () }

/-- The refused start is followed by a callback with one channel out and two in. -/
def calledThoughRefused : List Action :=
  [.load { samples := #[.one], frameCount := 1, channels := 1, rate := 2 },
    .start refusingLink,
    .process
      { input := Frame.silence 4, inputCount := 9, output := Frame.silence 3, outputCount := 3,
        channels := { input := 2, output := 1 } }]

/-- Three frames are played, of which two are kept, and two are heard, of which one is kept. -/
theorem counters_match_beyond_capacity :
    let e := (new { maxRecordSeconds := 1 }).run calledThoughRefused
    latestFormats none calledThoughRefused = some (refusingLink.output, refusingLink.input)
      ∧ (∃ r, e.played = some r ∧ r.Balanced 2 3) ∧ ∃ r, e.recorded = some r ∧ r.Balanced 1 2 := by
  intro e
  have h := counters_match_recordings { maxRecordSeconds := 1 } calledThoughRefused
    refusingLink.output refusingLink.input rfl
  have hplayed : e.monitor.playedFrames = 3 := rfl
  have hrecorded : e.monitor.recordedFrames = 2 := rfl
  obtain ⟨⟨played, hp, hbalanced⟩, recorded, hr, hbalanced'⟩ := h
  rw [hplayed] at hbalanced
  rw [hrecorded] at hbalanced'
  exact ⟨rfl, ⟨played, hp, hbalanced⟩, recorded, hr, hbalanced'⟩

end Engine

end Loopback
