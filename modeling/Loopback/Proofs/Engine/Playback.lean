import Loopback.Proofs.Engine.Process
import Loopback.Proofs.Engine.Run

/-! # The playback law

    For any sequence of callbacks, switches of the loop mode and stops, the frames that an engine
    plays are those of its clip in order, over and over, counted from the latest load or start.

    * `AtRest` is the invariant: it gives the number of frames played since the rewind, and the
      cursor after the last of them.
    * A call of an engine at rest obeys the law (`AtRest.plays`) and leaves it at rest
      (`AtRest.answer`), so every call of a run does (`playback_law`).
-/

namespace Loopback.Engine

/-- The law for the buffer of one call: it contains frames `n`, …, `n + m - 1` of the endless
    repetition of a clip, followed by silence. -/
structure Plays (c : Clip) (n m : Nat) (call : Call) (output : List Sample) : Prop where
  length_eq : output.length = call.output.length
  le_frames : m ≤ call.frames
  /-- Frame `i` of those that are played, on channel `ch`. -/
  produced : ∀ i < m, ∀ ch < call.channels.output, ∃ s,
    c.samples[(n + i) % c.frameCount * c.channels + ch % c.channels]? = some s
      ∧ output[i * call.channels.output + ch]? = some s
  /-- The other frames that the call has room for are silent. -/
  silent : ∀ i, m ≤ i → i < call.frames → ∀ ch < call.channels.output,
    output[i * call.channels.output + ch]? = some Sample.zero
  /-- Samples after the last frame are left alone. -/
  untouched : ∀ j, call.frames * call.channels.output ≤ j → output[j]? = call.output[j]?

/-- `n` frames of the endless repetition of the clip have been played.  The cursor is the one after
    them, and the monitor has counted them, starting from `base`. -/
structure AtRest (c : Clip) (base n : Nat) (e : Engine) : Prop where
  clip_eq : e.clip = some c
  cursor_eq : e.cursor = c.restAt n
  position_eq : e.monitor.position = e.cursor
  playedFrames_eq : e.monitor.playedFrames = base + n

/-- Without channels there is no room for a frame. -/
theorem Call.frames_of_no_channels {call : Call} (hc : call.channels.output = 0) :
    call.frames = 0 := by
  simp [Call.frames, Frame.available, hc]

/-! ### Blocks by index -/

theorem index_lt_mul {i n j w : Nat} (hi : i < n) (hj : j < w) : i * w + j < n * w := by
  have hstep : (i + 1) * w ≤ n * w := Nat.mul_le_mul_right w hi
  rw [Nat.succ_mul] at hstep
  omega

section

variable (e : Engine) {channels count i ch : Nat}

/-- The frames that are played come first. -/
theorem getElem?_block_of_lt (hi : i < (e.playing channels count).length) (hch : ch < channels) :
    (e.block channels count)[i * channels + ch]? = (e.playing channels count)[i][ch]? := by
  have hwidth : ∀ f ∈ e.playing channels count, f.length = channels :=
    fun f => length_of_mem_playing
  rw [block, List.getElem?_append_left, Frame.getElem?_flatten hwidth hi hch]
  rw [Frame.length_flatten hwidth]
  exact index_lt_mul hi hch

/-- The remaining frames are silent. -/
theorem getElem?_block_of_le (hle : (e.playing channels count).length ≤ i) (hi : i < count)
    (hch : ch < channels) :
    (e.block channels count)[i * channels + ch]? = some Sample.zero := by
  have hwidth : ∀ f ∈ e.playing channels count, f.length = channels :=
    fun f => length_of_mem_playing
  have hfront : (e.playing channels count).length * channels ≤ i * channels :=
    Nat.mul_le_mul_right _ hle
  have hindex := index_lt_mul hi hch
  rw [block, List.getElem?_append_right, Frame.length_flatten hwidth]
  · apply Frame.getElem?_silence
    rw [Nat.sub_mul]
    omega
  · rw [Frame.length_flatten hwidth]
    omega

end

/-! ### Calls -/

section

variable {c : Clip} {base n : Nat} {e : Engine}

theorem AtRest.playing_eq (h : AtRest c base n e) (channels count : Nat) :
    e.playing channels count
      = (List.range (c.due e.monitor.loopMode n count)).map fun i =>
          c.frameAt (c.cycled (n + i)) channels := by
  simp only [playing, h.clip_eq, h.cursor_eq, Clip.play_restAt]

theorem AtRest.length_playing (h : AtRest c base n e) (channels count : Nat) :
    (e.playing channels count).length = c.due e.monitor.loopMode n count := by
  rw [h.playing_eq, List.length_map, List.length_range]

/-- Playing advances the rest position by the frames played. -/
theorem AtRest.afterPlaying (h : AtRest c base n e) (channels count : Nat) :
    AtRest c base (n + c.due e.monitor.loopMode n count) (e.afterPlaying channels count) where
  clip_eq := by
    obtain ⟨cursor, position, heq⟩ := e.afterPlaying_eq channels count
    rw [heq]
    exact h.clip_eq
  cursor_eq := by simp only [Engine.afterPlaying, h.clip_eq, h.cursor_eq, Clip.play_restAt]
  position_eq := by simp only [Engine.afterPlaying, h.clip_eq]
  playedFrames_eq := by
    obtain ⟨cursor, position, heq⟩ := e.afterPlaying_eq channels count
    rw [heq]
    simp only [h.length_playing, h.playedFrames_eq, Nat.add_assoc]

/-- Listening leaves the rest position alone. -/
theorem AtRest.capture (h : AtRest c base n e) (input : List Sample) (count channels : Nat) :
    AtRest c base n (e.capture input count channels) := by
  by_cases hc : channels = 0
  · simpa [Engine.capture, hc] using h
  · rw [capture_eq e input count hc]
    exact ⟨h.clip_eq, h.cursor_eq, h.position_eq, h.playedFrames_eq⟩

/-- A call plays the frames that are due, as far as it has room. -/
theorem AtRest.answer (h : AtRest c base n e) (call : Call) :
    AtRest c base (n + c.due e.monitor.loopMode n call.frames) (e.answer call).1 := by
  show AtRest c base _ ((e.render call.output call.outputCount call.channels.output).1.capture
    call.input call.inputCount call.channels.input)
  apply AtRest.capture
  by_cases hc : call.channels.output = 0
  · have hnone := Call.frames_of_no_channels hc
    have hdue : c.due e.monitor.loopMode n 0 = 0 := Nat.le_zero.mp (c.due_le _ n 0)
    rw [hnone, hdue]
    simpa [render, hc] using h
  · rw [render_eq e call.output call.outputCount hc]
    exact h.afterPlaying call.channels.output call.frames

/-- Without channels the buffer is left as it is. -/
theorem answer_of_no_channels (e : Engine) {call : Call} (hc : call.channels.output = 0) :
    e.answer call
      = (e.capture call.input call.inputCount call.channels.input, call.output) := by
  simp [Engine.answer, process, render, hc]

theorem answer_output (e : Engine) {call : Call} (hc : call.channels.output ≠ 0) :
    (e.answer call).2
      = e.block call.channels.output call.frames
          ++ call.output.drop (call.frames * call.channels.output) := by
  simp only [Engine.answer, process, render_eq e call.output call.outputCount hc, Call.frames]

/-- A call of an engine at rest obeys the law. -/
theorem AtRest.plays (h : AtRest c base n e) (call : Call) :
    Plays c n (c.due e.monitor.loopMode n call.frames) call (e.answer call).2 := by
  have hfit : call.frames * call.channels.output ≤ call.output.length :=
    Frame.min_available_mul_le ..
  by_cases hc : call.channels.output = 0
  · rw [answer_of_no_channels e hc]
    exact ⟨rfl, c.due_le .., by simp [hc], by simp [hc], fun _ _ => rfl⟩
  · rw [answer_output e hc]
    refine ⟨?_, c.due_le .., ?_, ?_, ?_⟩
    · rw [List.length_append, length_block, List.length_drop]
      omega
    · -- a frame that was played
      intro i hi ch hch
      have hindex := c.index_lt (c.cycled (n + i)).isLt ch
      have hlen : i < (e.playing call.channels.output call.frames).length := by
        rw [h.length_playing]
        exact hi
      refine ⟨c.sampleAt (c.cycled (n + i)) ch, ?_, ?_⟩
      · exact Array.getElem?_eq_getElem hindex
      · rw [List.getElem?_append_left, getElem?_block_of_lt e hlen hch]
        · simp [h.playing_eq, Clip.frameAt, hch]
        · rw [length_block]
          exact index_lt_mul (Nat.lt_of_lt_of_le hi (c.due_le ..)) hch
    · -- a frame after them
      intro i hle hi ch hch
      rw [List.getElem?_append_left, getElem?_block_of_le e _ hi hch]
      · rw [h.length_playing]
        exact hle
      · rw [length_block]
        exact index_lt_mul hi hch
    · -- a sample after the last frame
      intro j hj
      rw [List.getElem?_append_right (by rw [length_block]; exact hj), length_block,
        List.getElem?_drop]
      congr 1
      omega

/-! ### Runs -/

/-- A rewind leaves the engine at rest at the start of the clip. -/
theorem atRest_of_rewinds (e : Engine) {a : Action} (ha : a.rewinds = true)
    (hclip : (e.perform a).clip = some c) :
    AtRest c (e.perform a).monitor.playedFrames 0 (e.perform a) := by
  cases a with
  | load a =>
    rcases perform_load e a with ⟨clip, -, heq⟩ | ⟨err, herr, -⟩
    · rw [heq] at hclip ⊢
      exact ⟨hclip, rfl, rfl, rfl⟩
    · simp [Action.rewinds, herr, Except.toBool] at ha
  | @start σ inst link =>
    simp only [perform] at hclip ⊢
    rcases start_eq e link with heq | heq
    · rw [heq] at hclip ⊢
      exact ⟨hclip, rfl, rfl, rfl⟩
    · rw [heq] at hclip ⊢
      exact ⟨hclip, rfl, rfl, rfl⟩
  | loopMode on => simp [Action.rewinds] at ha
  | stop link => simp [Action.rewinds] at ha
  | process call => simp [Action.rewinds] at ha

/-- Every other action plays some number of frames, possibly 0. -/
theorem AtRest.perform (h : AtRest c base n e) {a : Action} (ha : a.rewinds = false) :
    ∃ m, AtRest c base (n + m) (e.perform a) := by
  cases a with
  | load a =>
    rcases perform_load e a with ⟨clip, hok, -⟩ | ⟨err, -, heq⟩
    · simp [Action.rewinds, hok, Except.toBool] at ha
    · rw [heq]
      exact ⟨0, h⟩
  | start link => simp [Action.rewinds] at ha
  | loopMode on => exact ⟨0, h.clip_eq, h.cursor_eq, h.position_eq, h.playedFrames_eq⟩
  | stop link => exact ⟨0, h.clip_eq, h.cursor_eq, h.position_eq, h.playedFrames_eq⟩
  | process call => exact ⟨_, h.answer call⟩

theorem AtRest.run (h : AtRest c base n e) (actions : List Action)
    (hquiet : ∀ a ∈ actions, a.rewinds = false) : ∃ m, AtRest c base (n + m) (e.run actions) := by
  induction actions generalizing n e with
  | nil => exact ⟨0, h⟩
  | cons a actions ih =>
    obtain ⟨m, hstep⟩ := h.perform (hquiet a (by simp))
    obtain ⟨k, hrun⟩ := ih hstep fun b hb => hquiet b (by simp [hb])
    refine ⟨m + k, ?_⟩
    rw [run_cons, ← Nat.add_assoc]
    exact hrun

end

/-- **The playback law.** Rewind any engine by a load or a start, let it run without another load or
    start, and consider one call.  If `n` frames were played between the rewind and the call, the
    call plays `m` frames, and its buffer contains frames `n`, …, `n + m - 1` of the endless
    repetition of the clip, followed by silence.  It plays fewer frames than it has room for only if
    the clip has ended and does not loop.  After the call, the cursor is the one after frame `n + m
    - 1`, and the monitor shows it. -/
theorem playback_law (e : Engine) (rewind : Action) (hrewind : rewind.rewinds = true) (c : Clip)
    (hclip : (e.perform rewind).clip = some c) (actions : List Action)
    (hquiet : ∀ a ∈ actions, a.rewinds = false) (call : Call) :
    let start := e.perform rewind
    let before := start.run actions
    let after := (before.answer call).1
    let output := (before.answer call).2
    ∃ n m, before.monitor.playedFrames = start.monitor.playedFrames + n
      ∧ after.monitor.playedFrames = before.monitor.playedFrames + m
      ∧ Plays c n m call output
      ∧ (call.channels.output = 0 → m = 0 ∧ output = call.output
          ∧ after = before.capture call.input call.inputCount call.channels.input)
      ∧ (m < call.frames →
          before.monitor.loopMode = false ∧ 0 < n + m ∧ c.frameCount ∣ n + m)
      ∧ m = (if before.monitor.loopMode then call.frames
          else min call.frames (c.frameCount - before.cursor))
      ∧ after.cursor = (if n + m = 0 then 0 else (n + m - 1) % c.frameCount + 1)
      ∧ after.monitor.position = after.cursor
      ∧ after.clip = some c := by
  intro start before after output
  obtain ⟨n, hbefore⟩ := (atRest_of_rewinds e hrewind hclip).run actions hquiet
  rw [Nat.zero_add] at hbefore
  have hafter := hbefore.answer call
  have hplays := hbefore.plays call
  refine ⟨n, c.due before.monitor.loopMode n call.frames, hbefore.playedFrames_eq, ?_, hplays, ?_,
    c.end_of_due_lt _, ?_, hafter.cursor_eq, hafter.position_eq, hafter.clip_eq⟩
  · rw [hafter.playedFrames_eq, hbefore.playedFrames_eq, Nat.add_assoc]
  · intro hc
    have hnone := Call.frames_of_no_channels hc
    have hanswer := answer_of_no_channels before hc
    refine ⟨?_, congrArg Prod.snd hanswer, congrArg Prod.fst hanswer⟩
    rw [hnone]
    exact Nat.le_zero.mp (c.due_le _ n 0)
  · rw [Clip.due, hbefore.cursor_eq]

/-- Audio of three frames on one channel. -/
def threeFrames : Audio :=
  { samples := #[.one, .half, .negOne], frameCount := 3, channels := 1, rate := 8000 }

/-- Room for two frames on two channels; then the loop mode is switched off. -/
def twoFramesThenNoLoop : List Action :=
  [.process
      { input := [], inputCount := 0, output := Frame.silence 5, outputCount := 9,
        channels := { input := 1, output := 2 } },
    .loopMode false]

def twoMore : Call :=
  { input := [], inputCount := 0, output := Frame.silence 2, outputCount := 2,
    channels := { input := 1, output := 1 } }

/-- The third frame of the clip is still played; then the clip has ended. -/
theorem playback_law_at_clip_end :
    (Action.load threeFrames).rewinds = true
      ∧ (∀ a ∈ twoFramesThenNoLoop, a.rewinds = false)
      ∧ ∃ clip, Clip.ofAudio threeFrames = .ok clip
        ∧ ((Engine.new {}).perform (.load threeFrames)).clip = some clip
        ∧ Plays clip 2 1 twoMore [.negOne, .zero] := by
  have hquiet : ∀ a ∈ twoFramesThenNoLoop, a.rewinds = false := by
    simp [twoFramesThenNoLoop, Action.rewinds]
  refine ⟨rfl, hquiet, _, rfl, rfl, ?_⟩
  obtain ⟨n, m, hn, hm, hplays, -⟩ :=
    playback_law (Engine.new {}) (.load threeFrames) rfl _ rfl twoFramesThenNoLoop hquiet twoMore
  have htwo : (2 : Nat) = 0 + n := hn
  have hthree : (3 : Nat) = 2 + m := hm
  obtain rfl : n = 2 := by omega
  obtain rfl : m = 1 := by omega
  exact hplays

end Loopback.Engine
