import Loopback.Proofs.Engine.Process
import Loopback.Proofs.Engine.Run
import Loopback.Proofs.Except
import Loopback.Proofs.Guarded.Recording

/-! # Callbacks on memory

    A callback fills a slice of memory and reads another one.  `Working` is an engine that does so
    frame by frame and sample by sample, with every index computed and every loop bounded, and may
    fault.

    * `Working.of` is an engine laid out in memory.
    * `Engine.Addressable` is the invariant: the cursor is not past the clip, and the samples of the
      clip and of the recordings can be counted in 64 bits.
    * `renderRounds_eq` is the loop that renders, one frame after the other, with as many rounds as
      there are frames to fill.
    * `of_render` and `of_capture` are the two halves of a callback, `of_answer` is all of it.
-/

namespace Loopback

/-- The audio that a clip was made of. -/
def Clip.audio (c : Clip) : Audio :=
  { samples := c.samples, frameCount := c.frameCount, channels := c.channels, rate := c.rate }

/-- An engine that works on memory. -/
structure Working where
  options : Options
  /-- What is played, without any guarantee that its counts are right. -/
  clip : Option Audio
  cursor : Nat
  played : Option Store
  recorded : Option Store
  meters : List Meter
  ticket : PeakTicket
  outputFormat : Option StreamFormat
  inputFormat : Option StreamFormat
  monitor : Monitor

/-- The state of the loop that renders, between two rounds. -/
structure Rendering where
  cursor : Nat
  played : Option Store
  /-- The number of frames of the buffer that are filled, which are those played as well. -/
  filled : Nat
  output : List Sample

namespace Guarded

/-! ### Steps of a callback -/

/-- Applies a step to a recording, if there is one. -/
def onSome (step : Store → Except Fault Store) : Option Store → Except Fault (Option Store)
  | none => .ok none
  | some s => do
    let s ← step s
    .ok (some s)

/-- The cursor of the frame that is due.  At its end a looping clip starts over. -/
def due? (a : Audio) (loop : Bool) (cursor : Nat) : Option Nat :=
  if a.frameCount ≤ cursor then if loop then some 0 else none else some cursor

/-- The sample that an output channel plays, given the samples from the start of a frame on. -/
def sound (source : List Sample) (width channel : Nat) : Except Fault Sample := do
  let index ← mod channel width
  get source index

/-- A frame of audio for the given number of output channels. -/
def soundFrame (a : Audio) (cursor channels : Nat) : Except Fault Frame := do
  let start ← mul cursor a.channels
  let source ← slice a.samples.toList start a.samples.size
  (List.range channels).mapM (sound source a.channels)

/-- Fills a buffer frame by frame, in a bounded number of rounds. -/
def renderRounds (a : Audio) (loop : Bool) (channels frames : Nat) :
    Nat → Rendering → Except Fault Rendering
  | 0, s => if s.filled < frames then .error .tooManyRounds else .ok s
  | rounds + 1, s =>
    if s.filled < frames then
      match due? a loop s.cursor with
      | some cursor => do
        let start ← mul s.filled channels
        let filled ← add s.filled 1
        let stop ← mul filled channels
        let place ← slice s.output start stop
        let frame ← soundFrame a cursor place.length
        let output ← copy s.output start stop frame
        let played ← onSome (·.writeFrame frame) s.played
        let cursor ← add cursor 1
        renderRounds a loop channels frames rounds { cursor, played, filled, output }
      | none => do
        let start ← mul s.filled channels
        let output ← silenceFrom s.output start
        .ok { s with output }
    else .ok s

/-- Feeds the first samples of a frame to as many meters. -/
def feedFrame (metered : Nat) (meters : List Meter) (frame : Frame) : Except Fault (List Meter) :=
  if metered ≤ meters.length then
    .ok (Meter.feedFrame (meters.take metered) frame ++ meters.drop metered)
  else .error .outOfRange

end Guarded

namespace Working

open Guarded

def render (w : Working) (output : List Sample) (count channels : Nat) :
    Except Fault (Working × List Sample) :=
  if channels = 0 then .ok (w, output)
  else do
    let available ← div output.length channels
    let frames := min count available
    let stop ← mul frames channels
    let buffer ← slice output 0 stop
    let untouched := output.drop stop
    match w.clip with
    | none => .ok (w, Frame.silence buffer.length ++ untouched)
    | some a => do
      let s ← renderRounds a w.monitor.loopMode channels frames frames
        { cursor := w.cursor, played := w.played, filled := 0, output := buffer }
      .ok
        ({ w with
            cursor := s.cursor
            played := s.played
            monitor :=
              { w.monitor with
                playedFrames := w.monitor.playedFrames + s.filled
                position := s.cursor } },
          s.output ++ untouched)

def capture (w : Working) (input : List Sample) (count channels : Nat) : Except Fault Working :=
  if channels = 0 then .ok w
  else do
    let available ← div input.length channels
    let count := min count available
    let metered := min channels w.meters.length
    let stop ← mul count channels
    let heard ← slice input 0 stop
    let recorded ← onSome (·.record heard count channels) w.recorded
    let frames ← frames channels heard
    let meters ← frames.foldlM (feedFrame metered) w.meters
    let peaks := w.monitor.peaks
    .ok
      { w with
        recorded
        meters
        monitor :=
          { w.monitor with
            recordedFrames := w.monitor.recordedFrames + count
            peaks := if count = 0 then peaks else peaks.publish w.ticket meters } }

def answer (w : Working) (call : Engine.Call) : Except Fault (Working × List Sample) := do
  let (w, output) ← w.render call.output call.outputCount call.channels.output
  let w ← w.capture call.input call.inputCount call.channels.input
  .ok (w, output)

/-- An engine laid out in memory. -/
def of (e : Engine) : Working :=
  { options := e.options
    clip := e.clip.map (·.audio)
    cursor := e.cursor
    played := e.played.map .of
    recorded := e.recorded.map .of
    meters := e.meters
    ticket := e.ticket
    outputFormat := e.outputFormat
    inputFormat := e.inputFormat
    monitor := e.monitor }

end Working

/-- All samples of the engine can be addressed. -/
structure Engine.Addressable (e : Engine) : Prop where
  /-- The cursor is at most at the end of the clip. -/
  cursor_le : ∀ c, e.clip = some c → e.cursor ≤ c.frameCount
  clip_lt : ∀ c, e.clip = some c → c.samples.size < 2 ^ 64
  played : ∀ r, e.played = some r → r.Addressable
  recorded : ∀ r, e.recorded = some r → r.Addressable

/-- A recording stays addressable when frames are added. -/
theorem Recording.addressable_of_map {recording : Option Recording}
    (h : ∀ r, recording = some r → r.Addressable) (frames : List Frame) :
    ∀ r, recording.map (·.writeFrames frames) = some r → r.Addressable := by
  intro r hr
  obtain ⟨before, hbefore, rfl⟩ := Option.map_eq_some_iff.mp hr
  exact (h before hbefore).writeFrames frames

namespace Guarded

/-- If a step agrees with an operation on every recording, it does so on the one there is. -/
theorem onSome_of_ok {step : Store → Except Fault Store} {result : Recording → Recording}
    {recording : Option Recording}
    (h : ∀ r, recording = some r → step (.of r) = .ok (.of (result r))) :
    onSome step (recording.map .of) = .ok ((recording.map result).map .of) := by
  cases recording with
  | none => rfl
  | some r =>
    show (step (.of r) >>= fun s => .ok (some s)) = _
    rw [h r rfl]
    rfl

/-- The first steps of either half of a callback: it counts the whole frames in its buffer, up to
    the number it was given, and takes the slice that they fill. -/
theorem slice_frames {buffer : List Sample} {channels count frames : Nat} (hpos : 0 < channels)
    (hlt : buffer.length < 2 ^ 64)
    (hframes : frames = min count (Frame.available channels buffer)) :
    frames * channels ≤ buffer.length
      ∧ div buffer.length channels = .ok (Frame.available channels buffer)
      ∧ mul frames channels = .ok (frames * channels)
      ∧ slice buffer 0 (frames * channels) = .ok (buffer.take (frames * channels))
      ∧ (buffer.take (frames * channels)).length = frames * channels := by
  have hfit : frames * channels ≤ buffer.length := by
    rw [hframes]
    exact Frame.min_available_mul_le ..
  have hlength : (buffer.take (frames * channels)).length = frames * channels := by
    rw [List.length_take, Nat.min_eq_left hfit]
  exact ⟨hfit, div_of_pos hpos, mul_of_lt (Nat.lt_of_le_of_lt hfit hlt), slice_take hfit, hlength⟩

/-! ### Playing -/

section

variable (c : Clip)

theorem due?_audio (loop : Bool) (cursor : Nat) :
    due? c.audio loop cursor = (c.next? loop cursor).map (·.val) := by
  unfold due? Clip.next?
  by_cases hend : cursor < c.frameCount
  · have hwithin : ¬c.audio.frameCount ≤ cursor := Nat.not_le.mpr hend
    rw [if_neg hwithin, dif_pos hend]
    rfl
  · have hbeyond : c.audio.frameCount ≤ cursor := Nat.not_lt.mp hend
    rw [if_pos hbeyond, dif_neg hend]
    cases loop with
    | true => rfl
    | false => rfl

/-- All samples of a frame of a clip exist. -/
theorem soundFrame_audio (hsize : c.samples.size < 2 ^ 64) (k : Fin c.frameCount)
    (channels : Nat) : soundFrame c.audio k channels = .ok (c.frameAt k channels) := by
  have hstart : k * c.channels ≤ c.samples.size := by
    have := c.index_lt k.isLt 0
    omega
  have hmul : mul k c.channels = .ok (k * c.channels) := mul_of_lt (by omega)
  have hsource : slice c.samples.toList (k * c.channels) c.samples.size
      = .ok (c.samples.toList.drop (k * c.channels)) := slice_drop hstart
  have hsound : ∀ channel ∈ List.range channels,
      sound (c.samples.toList.drop (k * c.channels)) c.channels channel
        = .ok (c.sampleAt k channel) := by
    intro channel _
    have hindex : channel % c.channels < (c.samples.toList.drop (k * c.channels)).length := by
      have := c.index_lt k.isLt channel
      rw [List.length_drop, Array.length_toList]
      omega
    simp only [sound, bind, Except.bind, mod_of_pos c.channels_pos, get_of_lt hindex,
      List.getElem_drop, Array.getElem_toList]
    rfl
  simp only [soundFrame, bind, Except.bind, Clip.audio, hmul, hsource]
  exact Except.mapM_of_ok hsound

/-- Audio with fewer samples than its counts say would fault; it never becomes a clip. -/
example : soundFrame { samples := #[.one], frameCount := 2, channels := 1, rate := 8000 } 1 1
    = .error .outOfRange := rfl

variable {c} {loop : Bool} {channels frames : Nat}

/-- One round of the loop fills one frame of the buffer and plays it, if one is due. -/
theorem renderRounds_of_some (hsize : c.samples.size < 2 ^ 64) {cursor : Nat} {k : Fin c.frameCount}
    (hnext : c.next? loop cursor = some k) {played : Option Recording}
    (hplayed : ∀ r, played = some r → r.Addressable) {filled : Nat} (hfilled : filled < frames)
    (hframes : frames < 2 ^ 64) (hbuffer : frames * channels < 2 ^ 64)
    {front place : List Sample} (hfront : front.length = filled * channels)
    (hplace : place.length = channels) (rest : List Sample) (rounds : Nat) :
    renderRounds c.audio loop channels frames (rounds + 1)
        { cursor, played := played.map .of, filled, output := front ++ (place ++ rest) }
      = renderRounds c.audio loop channels frames rounds
          { cursor := k + 1
            played := (played.map (·.writeFrames [c.frameAt k channels])).map .of
            filled := filled + 1
            output := (front ++ c.frameAt k channels) ++ rest } := by
  have hnextStop : (filled + 1) * channels ≤ frames * channels := Nat.mul_le_mul_right _ hfilled
  have hstop : (filled + 1) * channels = filled * channels + channels := Nat.succ_mul ..
  have hstart : mul filled channels = .ok (filled * channels) := mul_of_lt (by omega)
  have hadd : add filled 1 = .ok (filled + 1) := add_of_lt (by omega)
  have hmul : mul (filled + 1) channels = .ok ((filled + 1) * channels) := mul_of_lt (by omega)
  have hslice := slice_append rest hfront.symm (hstop.trans (by rw [hplace]))
  have hlength := c.length_frameAt channels k
  have hcopy := copy_append (c.frameAt k channels) rest hfront.symm
    (hstop.trans (by rw [hplace])) (hplace.trans hlength.symm)
  have hwrite : onSome (·.writeFrame (c.frameAt k channels)) (played.map Store.of)
      = .ok ((played.map (·.writeFrames [c.frameAt k channels])).map Store.of) :=
    onSome_of_ok fun r hr => Store.of_writeFrame (hplayed r hr) _
  have hcursor : add k 1 = .ok (k + 1) := by
    apply add_of_lt
    have hle : c.frameCount ≤ c.samples.size := by
      rw [c.size_eq]
      exact Nat.le_mul_of_pos_right _ c.channels_pos
    have := k.isLt
    omega
  have hdue : due? c.audio loop cursor = some k.val := by rw [due?_audio, hnext, Option.map_some]
  rw [renderRounds, if_pos hfilled]
  simp only [hdue, bind, Except.bind, hstart, hadd, hmul, hslice, hplace, soundFrame_audio c hsize,
    hcopy, hwrite, hcursor, List.append_assoc]

/-- If no frame is due, the rest of the buffer is silenced. -/
theorem renderRounds_of_none {cursor : Nat} (hnext : c.next? loop cursor = none)
    {played : Option Store} {filled : Nat} (hfilled : filled < frames)
    (hbuffer : frames * channels < 2 ^ 64) {front rest : List Sample}
    (hfront : front.length = filled * channels) (rounds : Nat) :
    renderRounds c.audio loop channels frames (rounds + 1)
        { cursor, played, filled, output := front ++ rest }
      = .ok { cursor, played, filled, output := front ++ Frame.silence rest.length } := by
  have hle : filled * channels ≤ frames * channels :=
    Nat.mul_le_mul_right _ (Nat.le_of_lt hfilled)
  have hstart : mul filled channels = .ok (filled * channels) := mul_of_lt (by omega)
  have hdue : due? c.audio loop cursor = none := by rw [due?_audio, hnext, Option.map_none]
  rw [renderRounds, if_pos hfilled]
  simp only [hdue, bind, Except.bind, hstart, silenceFrom_append rest hfront.symm]

/-- **The loop that renders never faults**, given a round for each frame that is still to be filled,
    and it plays what the clip plays. -/
theorem renderRounds_eq (hsize : c.samples.size < 2 ^ 64) (hframes : frames < 2 ^ 64)
    (hbuffer : frames * channels < 2 ^ 64) (loop : Bool) (rounds cursor filled : Nat)
    (hfilled : filled + rounds = frames) {played : Option Recording}
    (hplayed : ∀ r, played = some r → r.Addressable) (front rest : List Sample)
    (hfront : front.length = filled * channels) (hrest : rest.length = rounds * channels) :
    let produced := (c.play loop channels rounds cursor).1
    renderRounds c.audio loop channels frames rounds
        { cursor, played := played.map .of, filled, output := front ++ rest }
      = .ok
          { cursor := (c.play loop channels rounds cursor).2
            played := (played.map (·.writeFrames produced)).map .of
            filled := filled + produced.length
            output := front ++ (produced.flatten
              ++ Frame.silence ((rounds - produced.length) * channels)) } := by
  induction rounds generalizing cursor played filled front rest with
  | zero =>
    have hnone : rest = [] := List.length_eq_zero_iff.mp (by omega)
    have hdone : ¬filled < frames := by omega
    subst hnone
    simp [renderRounds, hdone, Frame.silence]
  | succ rounds ih =>
    have hmore : filled < frames := by omega
    cases hnext : c.next? loop cursor with
    | none =>
      rw [c.play_of_none loop channels hnext, renderRounds_of_none hnext hmore hbuffer hfront]
      simp [hrest]
    | some k =>
      -- the frame that is filled moves from the rest of the buffer to its front
      rw [Nat.succ_mul] at hrest
      have hplace : (rest.take channels).length = channels := by
        rw [List.length_take]
        omega
      have hround := renderRounds_of_some hsize hnext hplayed hmore hframes hbuffer hfront hplace
        (rest.drop channels) rounds
      rw [List.take_append_drop] at hround
      rw [c.play_succ_of_some loop channels hnext, hround]
      have hlength := c.length_frameAt channels k
      have hwritten := Recording.addressable_of_map hplayed [c.frameAt k channels]
      have hstep := ih (k + 1) (filled + 1) (by omega) hwritten
        (front ++ c.frameAt k channels) (rest.drop channels)
        (by rw [List.length_append, hfront, hlength, Nat.succ_mul])
        (by rw [List.length_drop]; omega)
      dsimp only at hstep ⊢
      generalize (c.play loop channels rounds (k + 1)).1 = produced at hstep ⊢
      have hleft : rounds + 1 - (produced.length + 1) = rounds - produced.length := by omega
      have hcount : filled + 1 + produced.length = filled + (produced.length + 1) := by omega
      have hcons := Recording.map_writeFrames_append played [c.frameAt k channels] produced
      rw [List.singleton_append] at hcons
      rw [hstep, ← hcons, List.length_cons, hleft, hcount, List.flatten_cons, List.append_assoc,
        List.append_assoc]

end

/-! ### Listening -/

/-- Meters beyond the width of a frame are left alone in any case. -/
theorem feedFrame_take (meters : List Meter) (f : Frame) :
    Meter.feedFrame (meters.take (min f.length meters.length)) f
        ++ meters.drop (min f.length meters.length)
      = Meter.feedFrame meters f := by
  induction meters generalizing f with
  | nil => simp [Meter.feedFrame]
  | cons m meters ih =>
    cases f with
    | nil => simp [Meter.feedFrame]
    | cons s f => simpa [Meter.feedFrame, Nat.succ_min_succ] using ih f

/-- Feeding frames of the callback's width does not fault. -/
theorem feedFrames_eq {channels : Nat} {frames : List Frame}
    (h : ∀ f ∈ frames, f.length = channels) (meters : List Meter) :
    frames.foldlM (feedFrame (min channels meters.length)) meters
      = .ok (Meter.feedFrames meters frames) := by
  induction frames generalizing meters with
  | nil => rfl
  | cons f frames ih =>
    have hf : f.length = channels := h f (List.mem_cons_self ..)
    have hfeed : feedFrame (min channels meters.length) meters f
        = .ok (Meter.feedFrame meters f) := by
      rw [feedFrame, if_pos (Nat.min_le_right ..), ← hf, feedFrame_take]
    -- the number of meters does not change on the way
    have hrest := ih (fun g hg => h g (List.mem_cons_of_mem _ hg)) (Meter.feedFrame meters f)
    rw [Meter.length_feedFrame] at hrest
    rw [List.foldlM_cons, hfeed]
    exact hrest

end Guarded

namespace Working

open Guarded

section

variable {e : Engine}

/-- **Playing in memory never faults**, and has the same result. -/
theorem of_render (h : e.Addressable) {output : List Sample} (hlt : output.length < 2 ^ 64)
    (count channels : Nat) :
    (of e).render output count channels
      = .ok (of (e.render output count channels).1, (e.render output count channels).2) := by
  by_cases hc : channels = 0
  · simp only [render, Engine.render, hc, if_true]
  · have hpos : 0 < channels := Nat.pos_of_ne_zero hc
    obtain ⟨frames, hframes⟩ : ∃ n, n = min count (Frame.available channels output) := ⟨_, rfl⟩
    obtain ⟨hfit, hdiv, hstop, hslice, hlength⟩ := slice_frames hpos hlt hframes
    have hbuffer : frames * channels < 2 ^ 64 := Nat.lt_of_le_of_lt hfit hlt
    simp only [render, Engine.render, hc, if_false, bind, Except.bind, hdiv, ← hframes, hstop,
      hslice]
    cases hclip : e.clip with
    | none => simp only [of, hclip, Option.map_none, hlength]
    | some c =>
      have hsmall : frames < 2 ^ 64 := Nat.lt_of_le_of_lt (Nat.le_mul_of_pos_right _ hpos) hbuffer
      have hrounds := renderRounds_eq (h.clip_lt c hclip) hsmall hbuffer e.monitor.loopMode frames
        e.cursor 0 (Nat.zero_add _) h.played [] _ (by rw [Nat.zero_mul]; rfl) hlength
      simp only [List.nil_append, Nat.zero_add] at hrounds
      simp only [of, hclip, Option.map_some, hrounds]

/-- **Listening in memory never faults**, and has the same result. -/
theorem of_capture (h : e.Addressable) {input : List Sample} (hlt : input.length < 2 ^ 64)
    (count channels : Nat) :
    (of e).capture input count channels = .ok (of (e.capture input count channels)) := by
  by_cases hc : channels = 0
  · simp only [capture, Engine.capture, hc, if_true]
  · have hpos : 0 < channels := Nat.pos_of_ne_zero hc
    rw [Engine.capture_eq e input count hc]
    obtain ⟨frames, hframes⟩ : ∃ n, n = min count (Frame.available channels input) := ⟨_, rfl⟩
    rw [← hframes]
    obtain ⟨hfit, hdiv, hstop, hslice, hlength⟩ := slice_frames hpos hlt hframes
    have hcut : Frame.cut channels frames (input.take (frames * channels))
        = Frame.cut channels frames input := by
      have hsplit := Frame.cut_append hlength 0 (input.drop (frames * channels))
      rw [List.take_append_drop, Frame.cut_zero, List.append_nil, Nat.add_zero] at hsplit
      exact hsplit.symm
    have hrecord : onSome (·.record (input.take (frames * channels)) frames channels)
        (e.recorded.map Store.of)
          = .ok ((e.recorded.map (·.writeFrames
              (Frame.cut channels frames (input.take (frames * channels))))).map Store.of) :=
      onSome_of_ok fun r hr => Store.of_record (h.recorded r hr) hpos hlength
    have hchunks := frames_of_pos hpos (input.take (frames * channels))
    rw [hlength, Nat.mul_div_cancel _ hpos] at hchunks
    have hmeters := feedFrames_eq (fun f hf => Frame.length_of_mem_cut hfit hf) e.meters
    rw [hcut] at hrecord hchunks
    simp only [capture, hc, if_false, bind, Except.bind, hdiv, ← hframes, hstop, hslice]
    simp only [of, hrecord, hchunks, hmeters, Engine.afterHearing, Frame.length_cut]

end

end Working

namespace Engine

variable {e : Engine}

/-- Playing leaves the cursor at most at the end of the clip. -/
theorem Addressable.render (h : e.Addressable) (output : List Sample) (count channels : Nat) :
    (e.render output count channels).1.Addressable := by
  by_cases hc : channels = 0
  · simpa [Engine.render, hc] using h
  · rw [render_eq e output count hc]
    show (e.afterPlaying _ _).Addressable
    cases hclip : e.clip with
    | none =>
      simp only [afterPlaying, hclip]
      exact h
    | some c =>
      simp only [afterPlaying, hclip]
      refine ⟨?_, ?_, Recording.addressable_of_map h.played _, h.recorded⟩
      · intro other hother
        cases hother
        exact c.play_rest_le _ _ (h.cursor_le c hclip) _
      · intro other hother
        cases hother
        exact h.clip_lt c hclip

theorem Addressable.capture (h : e.Addressable) (input : List Sample) (count channels : Nat) :
    (e.capture input count channels).Addressable := by
  by_cases hc : channels = 0
  · simpa [Engine.capture, hc] using h
  · rw [capture_eq e input count hc]
    exact { h with recorded := Recording.addressable_of_map h.recorded _ }

theorem Addressable.answer (h : e.Addressable) (call : Call) : (e.answer call).1.Addressable :=
  (h.render call.output call.outputCount call.channels.output).capture call.input call.inputCount
    call.channels.input

end Engine

/-- **A callback in memory never faults**, and has the same result. -/
theorem Working.of_answer {e : Engine} (h : e.Addressable) {call : Engine.Call}
    (hinput : call.input.length < 2 ^ 64) (houtput : call.output.length < 2 ^ 64) :
    (of e).answer call = .ok (of (e.answer call).1, (e.answer call).2) := by
  have hrender := of_render h houtput call.outputCount call.channels.output
  have hcapture := of_capture
    (h.render call.output call.outputCount call.channels.output) hinput call.inputCount
    call.channels.input
  simp only [answer, bind, Except.bind, hrender, hcapture]
  rfl

end Loopback
