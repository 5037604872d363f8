import Loopback.Proofs.Callback.Kept
import Loopback.Proofs.Engine.Process

/-! # Redundant state of an engine

    An engine stores some things twice: the cursor, the levels of its meters and the formats of its
    streams each occur in more than one place.  `Engine.Coherent` says that the copies agree, given
    the formats of the latest start that was attempted.  Every operation preserves this, and so does
    every callback.
-/

namespace Loopback

/-- A clip has the counts of the audio it was made of. -/
theorem Clip.counts_of_ofAudio {a : Audio} {clip : Clip} (h : Clip.ofAudio a = .ok clip) :
    clip.frameCount = a.frameCount ∧ clip.channels = a.channels ∧ clip.rate = a.rate := by
  unfold ofAudio at h
  -- the checks that fail give no clip
  split at h
  · cases h
  · split at h
    · cases h
    · split at h
      · cases h
      · split at h
        · cases h
        · split at h
          · cases h
          · cases h
            exact ⟨rfl, rfl, rfl⟩

namespace Engine

/-- The number of frames of the clip, or 0 without a clip. -/
def clipFrames (e : Engine) : Nat := (e.clip.map (·.frameCount)).getD 0

/-- The copies agree, given the output and the input format of the latest start. -/
structure Coherent (latest : Option (StreamFormat × StreamFormat)) (e : Engine) : Prop where
  position_eq : e.monitor.position = e.cursor
  cursor_le : e.cursor ≤ e.clipFrames
  /-- The meters' levels are published where they can be read. -/
  live : e.ticket.generation = e.monitor.peaks.generation
  levels_eq : e.monitor.peaks.levels = e.meters.map (·.level)
  length_meters : e.meters.length = (latest.map (·.2.channels)).getD 0
  started_eq : e.monitor.started = latest.isSome
  played_isSome : e.played.isSome = latest.isSome
  recorded_isSome : e.recorded.isSome = latest.isSome
  outputFormat_eq : e.outputFormat = latest.map (·.1)
  inputFormat_eq : e.inputFormat = latest.map (·.2)
  started_of_running : e.monitor.running = true → latest.isSome = true

theorem coherent_new (options : Options) : Coherent none (new options) where
  position_eq := rfl
  cursor_le := Nat.le_refl 0
  live := rfl
  levels_eq := rfl
  length_meters := rfl
  started_eq := rfl
  played_isSome := rfl
  recorded_isSome := rfl
  outputFormat_eq := rfl
  inputFormat_eq := rfl
  started_of_running h := by cases h

section

variable {latest : Option (StreamFormat × StreamFormat)} {e : Engine}

/-! ### The controlling side -/

theorem Coherent.setLoopMode (h : Coherent latest e) (on : Bool) :
    Coherent latest (e.setLoopMode on) := { h with }

/-- A new clip is rewound in both places. -/
theorem Coherent.load (h : Coherent latest e) {a : Audio} {e' : Engine}
    (hload : e.load a = .ok e') : Coherent latest e' := by
  obtain ⟨clip, -, rfl⟩ := load_of_ok hload
  exact { h with position_eq := rfl, cursor_le := Nat.zero_le _ }

/-- Preparing establishes it, whatever held before. -/
theorem coherent_prepare (e : Engine) (output input : StreamFormat) :
    Coherent (some (output, input)) (e.prepare output input) where
  position_eq := rfl
  cursor_le := Nat.zero_le _
  live := rfl
  levels_eq := by
    show _ = (List.replicate input.channels (Meter.fresh e.options.peakDecay)).map (·.level)
    rw [List.map_replicate]
    rfl
  length_meters := List.length_replicate
  started_eq := rfl
  played_isSome := rfl
  recorded_isSome := rfl
  outputFormat_eq := rfl
  inputFormat_eq := rfl
  started_of_running _ := rfl

/-- Only an engine that has been prepared may run. -/
theorem Coherent.setRunning (h : Coherent latest e) {running : Bool}
    (hready : running = true → latest.isSome = true) : Coherent latest (e.setRunning running) :=
  { h with started_of_running := hready }

/-! ### Callbacks -/

/-- Playing moves the cursor in both places, and not past the clip. -/
theorem Coherent.render (h : Coherent latest e) (output : List Sample) (count channels : Nat) :
    Coherent latest (e.render output count channels).1 := by
  by_cases hc : channels = 0
  · simpa [Engine.render, hc] using h
  · rw [render_eq e output count hc]
    show Coherent latest (e.afterPlaying _ _)
    cases hclip : e.clip with
    | none =>
      simp only [afterPlaying, hclip]
      exact h
    | some clip =>
      have hcursor : e.cursor ≤ clip.frameCount := by
        have hle := h.cursor_le
        rwa [clipFrames, hclip] at hle
      have hrest := clip.play_rest_le e.monitor.loopMode channels hcursor
        (min count (Frame.available channels output))
      simp only [afterPlaying, hclip]
      refine { h with position_eq := rfl, cursor_le := ?_, played_isSome := ?_ }
      · simp only [clipFrames]
        exact hrest
      · rw [Option.isSome_map]
        exact h.played_isSome

/-- Hearing publishes the levels of all meters. -/
theorem Coherent.afterHearing (h : Coherent latest e) (frames : List Frame) :
    Coherent latest (e.afterHearing frames) := by
  cases frames with
  | nil =>
    rw [afterHearing_nil]
    exact h
  | cons f frames =>
    -- the board has one slot for each meter, so publishing replaces all of its levels
    let meters := Meter.feedFrames e.meters (f :: frames)
    have hlength : meters.length = e.meters.length := Meter.length_feedFrames ..
    have hslots : e.monitor.peaks.levels.length = meters.length := by
      rw [h.levels_eq, List.length_map, hlength]
    have hpublish : e.monitor.peaks.publish e.ticket meters
        = { e.monitor.peaks with levels := meters.map (·.level) } := by
      rw [PeakBoard.publish, if_pos h.live, PeakBoard.overwrite_of_length hslots]
    have hpeaks : (e.afterHearing (f :: frames)).monitor.peaks
        = { e.monitor.peaks with levels := meters.map (·.level) } := hpublish
    refine { h with live := ?_, levels_eq := ?_, length_meters := ?_, recorded_isSome := ?_ }
    · rw [hpeaks]
      exact h.live
    · rw [hpeaks]
      rfl
    · exact hlength.trans h.length_meters
    · exact (Option.isSome_map ..).trans h.recorded_isSome

theorem Coherent.capture (h : Coherent latest e) (input : List Sample) (count channels : Nat) :
    Coherent latest (e.capture input count channels) := by
  by_cases hc : channels = 0
  · simpa [Engine.capture, hc] using h
  · rw [capture_eq e input count hc]
    exact h.afterHearing _

end

/-- Callbacks preserve coherence. -/
theorem keptByCallbacks_coherent (latest : Option (StreamFormat × StreamFormat)) :
    KeptByCallbacks (Coherent latest) where
  call _ call h :=
    (h.render call.output call.outputCount call.channels.output).capture call.input
      call.inputCount call.channels.input
  skipped _ h := { h with }
  dropped _ _ h := { h with }

end Engine

end Loopback
