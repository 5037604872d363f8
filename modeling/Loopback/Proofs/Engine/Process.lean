import Loopback.Engine.Process
import Loopback.Proofs.Clip.Playback
import Loopback.Proofs.Peak
import Loopback.Proofs.Recording

/-! # What an audio callback does

    A callback plays and then listens.  Each half is described by its effect on the engine and by
    the frames that pass.

    * `playing` are the frames that a callback plays, `afterPlaying` is the engine afterwards,
      `block` is what it writes to its buffer.  All three compose over two callbacks in a row.
    * `afterPlaying_eq` says what playing changes, and so what it leaves alone.
    * `afterHearing` is the engine after it has heard frames.
    * The two halves are independent, so their order does not matter (`afterHearing_afterPlaying`).
-/

namespace Loopback.Engine

/-! ### Playing -/

/-- The frames of the clip that a callback plays, with room for `count` of them. -/
def playing (e : Engine) (channels count : Nat) : List Frame :=
  match e.clip with
  | none => []
  | some clip => (clip.play e.monitor.loopMode channels count e.cursor).1

/-- The engine after a callback has played, with room for `count` frames. -/
def afterPlaying (e : Engine) (channels count : Nat) : Engine :=
  match e.clip with
  | none => e
  | some clip =>
    let (produced, cursor) := clip.play e.monitor.loopMode channels count e.cursor
    { e with
      cursor
      played := e.played.map (·.writeFrames produced)
      monitor :=
        { e.monitor with
          playedFrames := e.monitor.playedFrames + produced.length
          position := cursor } }

/-- What a callback writes to its buffer: the frames it plays, then silence. -/
def block (e : Engine) (channels count : Nat) : List Sample :=
  (e.playing channels count).flatten
    ++ Frame.silence ((count - (e.playing channels count).length) * channels)

/-- Playing fills the front of the buffer and leaves the rest of it as it was. -/
theorem render_eq (e : Engine) (output : List Sample) (count : Nat) {channels : Nat}
    (hc : channels ≠ 0) :
    e.render output count channels
      = (e.afterPlaying channels (min count (Frame.available channels output)),
          e.block channels (min count (Frame.available channels output))
            ++ output.drop (min count (Frame.available channels output) * channels)) := by
  cases hclip : e.clip <;> simp [render, hc, afterPlaying, block, playing, hclip]

theorem length_playing_le (e : Engine) (channels count : Nat) :
    (e.playing channels count).length ≤ count := by
  unfold playing
  split
  · exact Nat.zero_le _
  · exact Clip.length_play_le ..

/-- An engine with a looping clip plays as many frames as there is room for. -/
theorem length_playing_of_loop {e : Engine} (hclip : e.clip ≠ none)
    (hloop : e.monitor.loopMode = true) (channels count : Nat) :
    (e.playing channels count).length = count := by
  cases h : e.clip with
  | none => exact absurd h hclip
  | some clip => simp only [playing, h, hloop, Clip.length_play_of_loop]

theorem length_of_mem_playing {e : Engine} {channels count : Nat} {f : Frame}
    (hf : f ∈ e.playing channels count) : f.length = channels := by
  unfold playing at hf
  split at hf
  · simp at hf
  · exact Clip.length_of_mem_play _ _ _ hf

@[simp] theorem length_block (e : Engine) (channels count : Nat) :
    (e.block channels count).length = count * channels := by
  have hle := e.length_playing_le channels count
  rw [block, List.length_append, Frame.length_flatten fun f => length_of_mem_playing,
    Frame.length_silence, ← Nat.add_mul]
  congr 1
  omega

/-- Playing moves the cursor, counts the frames and records them.  Nothing else changes. -/
theorem afterPlaying_eq (e : Engine) (channels count : Nat) :
    ∃ cursor position, e.afterPlaying channels count
      = { e with
          cursor
          played := e.played.map (·.writeFrames (e.playing channels count))
          monitor :=
            { e.monitor with
              playedFrames := e.monitor.playedFrames + (e.playing channels count).length
              position } } := by
  rcases Option.eq_none_or_eq_some e.clip with h | ⟨clip, h⟩
  · -- no frame is played, and the recording is as before
    have hafter : e.afterPlaying channels count = e := by simp only [afterPlaying, h]
    have hplaying : e.playing channels count = [] := by simp only [playing, h]
    refine ⟨e.cursor, e.monitor.position, ?_⟩
    rw [hafter, hplaying, Recording.map_writeFrames_nil]
    rfl
  · let cursor := (clip.play e.monitor.loopMode channels count e.cursor).2
    refine ⟨cursor, cursor, ?_⟩
    simp only [afterPlaying, playing, h, cursor]

/-! ### Playing composes -/

section

variable (e : Engine) (channels m n : Nat)

theorem afterPlaying_add :
    e.afterPlaying channels (m + n) = (e.afterPlaying channels m).afterPlaying channels n := by
  cases h : e.clip with
  | none => simp [afterPlaying, h]
  | some clip =>
    simp only [afterPlaying, h, Clip.play_add, List.length_append, Nat.add_assoc,
      Recording.map_writeFrames_append]

theorem playing_add :
    e.playing channels (m + n)
      = e.playing channels m ++ (e.afterPlaying channels m).playing channels n := by
  cases h : e.clip with
  | none => simp [playing, afterPlaying, h]
  | some clip => simp [playing, afterPlaying, h, Clip.play_add]

/-- If a callback plays fewer frames than it has room for, the next one plays none. -/
theorem playing_of_length_lt (h : (e.playing channels m).length < m) :
    (e.afterPlaying channels m).playing channels n = [] := by
  cases hclip : e.clip with
  | none => simp [playing, afterPlaying, hclip]
  | some clip =>
    simp only [playing, hclip] at h
    have hnext := clip.next?_of_length_play_lt _ _ h
    simp [playing, afterPlaying, hclip, Clip.play_of_none _ _ _ hnext]

theorem block_add :
    e.block channels (m + n)
      = e.block channels m ++ (e.afterPlaying channels m).block channels n := by
  have hle := e.length_playing_le channels m
  by_cases hlt : (e.playing channels m).length < m
  · -- the clip ended in the first part: the second one is silent
    have hnone := e.playing_of_length_lt channels m n hlt
    have hsilence : m + n - (e.playing channels m).length
        = (m - (e.playing channels m).length) + n := by
      omega
    simp [block, playing_add, hnone, hsilence, Nat.add_mul, Frame.silence_add]
  · have hfull : (e.playing channels m).length = m := by omega
    have hsilence : m + n - (m + ((e.afterPlaying channels m).playing channels n).length)
        = n - ((e.afterPlaying channels m).playing channels n).length := by
      omega
    simp [block, playing_add, hfull, hsilence, Frame.silence]

end

/-! ### Listening -/

/-- The engine after it has recorded, metered and counted frames. -/
def afterHearing (e : Engine) (frames : List Frame) : Engine :=
  let meters := Meter.feedFrames e.meters frames
  { e with
    recorded := e.recorded.map (·.writeFrames frames)
    meters
    monitor :=
      { e.monitor with
        recordedFrames := e.monitor.recordedFrames + frames.length
        peaks :=
          if frames.length = 0 then e.monitor.peaks
          else e.monitor.peaks.publish e.ticket meters } }

/-- The recording gets the frames of the buffer, in one block or one by one. -/
theorem record_eq (r : Recording) {input : List Sample} {frames channels : Nat}
    (hle : frames ≤ Frame.available channels input) :
    record r input frames channels = r.writeFrames (Frame.cut channels frames input) := by
  unfold record
  split
  · next heq =>
    subst heq
    rw [Recording.write_eq_writeFrames, Nat.min_eq_left hle]
  · rfl

/-- Listening hears the whole frames of its buffer, up to the number asked for. -/
theorem capture_eq (e : Engine) (input : List Sample) (count : Nat) {channels : Nat}
    (hc : channels ≠ 0) :
    e.capture input count channels
      = e.afterHearing
          (Frame.cut channels (min count (Frame.available channels input)) input) := by
  have hrecord : (record · input (min count (Frame.available channels input)) channels)
      = (·.writeFrames
          (Frame.cut channels (min count (Frame.available channels input)) input)) := by
    funext r
    exact record_eq r (Nat.min_le_right ..)
  simp only [capture, hc, if_false, afterHearing, Frame.length_cut, hrecord]

@[simp] theorem afterHearing_nil (e : Engine) : e.afterHearing [] = e := by
  cases h : e.recorded <;> simp [afterHearing, Meter.feedFrames, h] <;> rw [← h]

/-- Hearing frames in two rounds has the effect of hearing them at once.  The levels of the first
    round are published, too, but the second round replaces them. -/
theorem afterHearing_append (e : Engine) (a b : List Frame) :
    e.afterHearing (a ++ b) = (e.afterHearing a).afterHearing b := by
  cases a with
  | nil => rw [List.nil_append, afterHearing_nil]
  | cons f a =>
    cases b with
    | nil => rw [List.append_nil, afterHearing_nil]
    | cons g b =>
      have hmeters := Meter.feedFrames_append e.meters (f :: a) (g :: b)
      have hlen : (Meter.feedFrames e.meters (f :: a)).length
          = (Meter.feedFrames (Meter.feedFrames e.meters (f :: a)) (g :: b)).length := by simp
      have hpeaks := e.monitor.peaks.publish_publish e.ticket hlen
      have hrecorded := Recording.map_writeFrames_append e.recorded (f :: a) (g :: b)
      have hsome (frame : Frame) (frames : List Frame) : (frame :: frames).length ≠ 0 := by simp
      have hboth : (f :: a).length + (g :: b).length ≠ 0 := by simp
      simp only [afterHearing, hmeters, hrecorded, hsome, hboth, if_false, hpeaks,
        List.length_append, Nat.add_assoc]

theorem block_afterHearing (e : Engine) (frames : List Frame) (channels count : Nat) :
    (e.afterHearing frames).block channels count = e.block channels count := rfl

/-- Playing and listening commute. -/
theorem afterHearing_afterPlaying (e : Engine) (frames : List Frame) (channels count : Nat) :
    (e.afterPlaying channels count).afterHearing frames
      = (e.afterHearing frames).afterPlaying channels count := by
  cases h : e.clip <;> simp [afterPlaying, afterHearing, h]

/-! ### Both directions -/

/-- A callback with channels in both directions. -/
theorem process_eq (e : Engine) (input : List Sample) (inputCount : Nat) (output : List Sample)
    (outputCount : Nat) {channels : ChannelCounts} (hin : channels.input ≠ 0)
    (hout : channels.output ≠ 0) :
    e.process input inputCount output outputCount channels
      = ((e.afterPlaying channels.output
              (min outputCount (Frame.available channels.output output))).afterHearing
            (Frame.cut channels.input
              (min inputCount (Frame.available channels.input input)) input),
          e.block channels.output (min outputCount (Frame.available channels.output output))
            ++ output.drop
              (min outputCount (Frame.available channels.output output) * channels.output)) := by
  simp only [process, render_eq e output outputCount hout, capture_eq _ input inputCount hin]

/-- A callback that takes in a whole buffer and fills another one to its end. -/
theorem process_full (e : Engine) (input : List Sample) {output : List Sample} {count : Nat}
    {channels : ChannelCounts} (hin : 0 < channels.input) (hout : 0 < channels.output)
    (hlen : output.length = count * channels.output) :
    e.process input (input.length / channels.input) output count channels
      = ((e.afterPlaying channels.output count).afterHearing
            (Frame.cut channels.input (input.length / channels.input) input),
          e.block channels.output count) := by
  have havail : Frame.available channels.output output = count := by
    rw [Frame.available, hlen, Nat.mul_div_cancel _ hout]
  have hdrop : output.drop (count * channels.output) = [] := List.drop_of_length_le (by omega)
  rw [process_eq e _ _ _ _ (by omega) (by omega), havail, Nat.min_self, hdrop, List.append_nil,
    Frame.available, Nat.min_self]

end Loopback.Engine
