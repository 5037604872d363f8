import Loopback.Proofs.Callback.Chunks
import Loopback.Proofs.Engine.Run

/-! # Frames on their way from one callback to the other

    The input callback pushes frames into the ring; the output callback pops them and passes them to
    the engine.  However the two alternate, every frame that is offered is either refused as a whole
    and counted, or it reaches the engine, in order and once.

    * `Crossing` records, beside the engine and the ring, the result for every frame that was
      offered and the frames that were handed over.
    * `Conserves` is the invariant: the frames handed over and the frames in the ring are the
      accepted ones, and the engine has recorded, metered and counted the frames handed over.
-/

namespace Loopback

/-- An engine between two callbacks, with a record of the frames that passed between them. -/
structure Crossing where
  engine : Engine
  ring : Ring
  /-- The result for every frame that was offered, oldest first. -/
  offers : List Ring.Offer := []
  /-- Every frame that was handed to the engine, oldest first. -/
  handed : List Frame := []

namespace Crossing

/-- What can happen while a stream runs. -/
inductive Action : Type 1 where
  /-- The input callback brings samples. -/
  | push {α : Type} (convert : α → Sample) (data : List α)
  /-- The output callback fills a buffer that is not empty. -/
  | render {α : Type} (convert : Sample → α) (lock : EngineLock) (length : Nat) (pos : 0 < length)
  | loopMode (on : Bool)
  | load (a : Audio)

/-- The whole frames of `width` samples that an action offers to the ring, converted. -/
def Action.offered (width : Nat) : Action → List Frame
  | .push convert data => Frame.cut width (data.length / width) (data.map convert)
  | .render _ _ _ _ | .loopMode _ | .load _ => []

/-- Performs an action of a stream with these channels. -/
def perform (channels : ChannelCounts) (s : Crossing) (a : Action) : Crossing :=
  match a with
  | .push convert data =>
    let (engine, ring) := captureCallback convert channels.input s.engine s.ring data
    { s with engine, ring, offers := s.offers ++ s.ring.offers (a.offered channels.input) }
  | .render convert lock length _ =>
    let (engine, ring, _) := renderCallback convert channels lock s.engine s.ring length
    let captured := if lock.admits then (s.ring.popFrames channels.input).2 else []
    { s with
      engine
      ring
      handed :=
        s.handed ++ Frame.cut channels.input (captured.length / channels.input) captured }
  | .loopMode on => { s with engine := s.engine.setLoopMode on }
  | .load a => { s with engine := s.engine.perform (.load a) }

def run (channels : ChannelCounts) (s : Crossing) (actions : List Action) : Crossing :=
  actions.foldl (perform channels) s

def fresh (engine : Engine) (capacity : Nat) : Crossing := { engine, ring := .new capacity }

/-! ### The invariant -/

/-- No frame is lost, doubled or out of order between the callbacks.  The engine's recording holds
    `capacity` frames, and its meters were `meters` at the start. -/
structure Conserves (width capacity : Nat) (meters : List Meter) (s : Crossing) : Prop where
  /-- The frames handed over and those in the ring are the accepted ones. -/
  passed : ∃ held, s.ring.Frames width held ∧ s.handed ++ held = Ring.accepted s.offers
  /-- A frame is refused exactly if it does not fit. -/
  room : ∀ o ∈ s.offers, o.accepted = true ↔ width ≤ o.room
  dropped_eq : s.engine.monitor.droppedInputFrames = (Ring.refused s.offers).length
  handed_width : ∀ f ∈ s.handed, f.length = width
  recordedFrames_eq : s.engine.monitor.recordedFrames = s.handed.length
  recorded : ∃ r, s.engine.recorded = some r ∧ r.Holds width capacity s.handed
  meters_eq : s.engine.meters = Meter.feedFrames meters s.handed

/-- A start prepares a recording and meters for the input. -/
theorem conserves_fresh {σ : Type} [Link σ] (e : Engine) (link : σ) (capacity : Nat)
    (hpos : 0 < (Link.inputFormat link).channels) :
    Conserves (Link.inputFormat link).channels
      (e.options.maxRecordSeconds * (Link.inputFormat link).rate)
      (List.replicate (Link.inputFormat link).channels (.fresh e.options.peakDecay))
      (fresh (e.start link).1 capacity) := by
  have hholds := Recording.holds_new (Link.inputFormat link).channels
    (e.options.maxRecordSeconds * (Link.inputFormat link).rate)
  rw [Nat.max_eq_left hpos] at hholds
  rcases Engine.start_eq e link with heq | heq
  all_goals
    simp only [fresh, heq]
    exact ⟨⟨[], Ring.frames_new capacity _, rfl⟩, by simp, rfl, by simp, rfl,
      ⟨_, rfl, hholds⟩, rfl⟩

section

variable {channels : ChannelCounts} {capacity : Nat} {meters : List Meter} {s : Crossing}

/-- The input callback offers frames to the ring and counts those that are refused. -/
theorem Conserves.push {α : Type} (h : Conserves channels.input capacity meters s)
    (hpos : 0 < channels.input) (convert : α → Sample) (data : List α) :
    Conserves channels.input capacity meters (s.perform channels (.push convert data)) := by
  obtain ⟨held, hring, hpassed⟩ := h.passed
  let frames := Frame.cut channels.input (data.length / channels.input) (data.map convert)
  have hwidth : ∀ f ∈ frames, f.length = channels.input := by
    intro f hf
    refine Frame.length_of_mem_cut ?_ hf
    rw [List.length_map]
    exact Nat.div_mul_le_self ..
  have hcallback : captureCallback convert channels.input s.engine s.ring data
      = (s.engine.noteDroppedInput (s.ring.pushFrames frames).2,
          (s.ring.pushFrames frames).1) := by
    simp only [captureCallback, Nat.max_eq_left hpos, Frame.available, List.length_map, frames]
  obtain ⟨hin, hout⟩ := hring.pushFrames hwidth
  simp only [perform, hcallback, Action.offered]
  refine ⟨⟨_, hin, ?_⟩, ?_, ?_, h.handed_width, h.recordedFrames_eq, h.recorded, h.meters_eq⟩
  · rw [Ring.accepted_append, ← hpassed, List.append_assoc]
  · intro o ho
    rcases List.mem_append.mp ho with ho | ho
    · exact h.room o ho
    · exact Ring.accepted_iff_room s.ring hwidth o ho
  · show s.engine.monitor.droppedInputFrames + (s.ring.pushFrames frames).2 = _
    rw [h.dropped_eq, hout, Ring.refused_append, List.length_append]

/-- The output callback hands everything in the ring to the engine, or nothing at all. -/
theorem Conserves.render {α : Type} (h : Conserves channels.input capacity meters s)
    (hpos : 0 < channels.input) (convert : Sample → α) (lock : EngineLock) {length : Nat}
    (hlen : 0 < length) :
    Conserves channels.input capacity meters
      (s.perform channels (.render convert lock length hlen)) := by
  obtain ⟨held, hring, hpassed⟩ := h.passed
  by_cases hadmits : lock.admits = true
  · -- the ring is emptied, so all that was accepted has been handed over
    have hpop := hring.popFrames_eq hpos
    have hcut : Frame.cut channels.input (held.flatten.length / channels.input) held.flatten
        = held := by
      have := hring.cut_eq hpos
      rwa [← Array.length_toList, hring.items_eq] at this
    have hrender := renderCallback_of_admits convert channels hadmits s.engine s.ring
      (Nat.ne_of_gt hlen)
    simp only [Nat.max_eq_left hpos, hpop, hcut] at hrender
    obtain ⟨r, hr, hholds⟩ := h.recorded
    let outputs := max channels.output 1
    obtain ⟨cursor, position, hplaying⟩ := s.engine.afterPlaying_eq outputs (length / outputs)
    simp only [perform, hrender, hadmits, if_true, hpop, hcut, outputs, hplaying]
    refine ⟨⟨[], ⟨rfl, by simp⟩, by rw [List.append_nil]; exact hpassed⟩, h.room, h.dropped_eq, ?_,
      ?_, ⟨r.writeFrames held, ?_, hholds.writeFrames held⟩, ?_⟩
    · intro f hf
      rcases List.mem_append.mp hf with hf | hf
      · exact h.handed_width f hf
      · exact hring.width_eq f hf
    · simp only [Engine.afterHearing, h.recordedFrames_eq, List.length_append]
    · simp only [Engine.afterHearing, hr, Option.map_some]
    · simp only [Engine.afterHearing, h.meters_eq, Meter.feedFrames_append]
  · -- the engine is in use: everything waits where it is
    simp only [perform, renderCallback, hadmits, Bool.false_eq_true, if_false]
    have hnone : Frame.cut channels.input (([] : List Sample).length / channels.input) [] = [] := by
      simp
    rw [hnone, List.append_nil]
    exact ⟨⟨held, hring, hpassed⟩, h.room, h.dropped_eq, h.handed_width, h.recordedFrames_eq,
      h.recorded, h.meters_eq⟩

/-- Every action preserves the invariant. -/
theorem Conserves.perform (h : Conserves channels.input capacity meters s)
    (hpos : 0 < channels.input) (a : Action) :
    Conserves channels.input capacity meters (s.perform channels a) := by
  cases a with
  | push convert data => exact h.push hpos convert data
  | render convert lock length hlen => exact h.render hpos convert lock hlen
  | loopMode on =>
    exact ⟨h.passed, h.room, h.dropped_eq, h.handed_width, h.recordedFrames_eq, h.recorded,
      h.meters_eq⟩
  | load a =>
    simp only [Crossing.perform]
    rcases Engine.perform_load s.engine a with ⟨clip, -, heq⟩ | ⟨err, -, heq⟩
    all_goals
      rw [heq]
      exact ⟨h.passed, h.room, h.dropped_eq, h.handed_width, h.recordedFrames_eq, h.recorded,
        h.meters_eq⟩

theorem Conserves.run (h : Conserves channels.input capacity meters s)
    (hpos : 0 < channels.input) (actions : List Action) :
    Conserves channels.input capacity meters (s.run channels actions) := by
  induction actions generalizing s with
  | nil => exact h
  | cons a actions ih => exact ih (h.perform hpos a)

end

/-- The record of offers contains the frames that the input callback brought. -/
theorem map_frame_offers_run (channels : ChannelCounts) (s : Crossing) (actions : List Action) :
    (s.run channels actions).offers.map (·.frame)
      = s.offers.map (·.frame) ++ actions.flatMap (·.offered channels.input) := by
  induction actions generalizing s with
  | nil => simp [run]
  | cons a actions ih =>
    have hstep : (s.perform channels a).offers.map (·.frame)
        = s.offers.map (·.frame) ++ a.offered channels.input := by
      cases a with
      | push convert data => simp [perform, Ring.map_frame_offers]
      | render convert lock length pos => simp [perform, Action.offered]
      | loopMode on => simp [perform, Action.offered]
      | load a => simp [perform, Action.offered]
    show ((s.perform channels a).run channels actions).offers.map (·.frame) = _
    rw [ih, hstep, List.flatMap_cons, List.append_assoc]

/-- **Every frame crosses once, in order, or is counted.** After a start, with an empty ring of any
    capacity, the two callbacks of a stream may alternate in any order.  Each frame that was offered
    has been accepted or refused; it was refused exactly if it did not fit, and the refused frames
    are counted.  The accepted frames are those handed to the engine, followed by those in the ring.
    The engine has counted and metered exactly the frames handed over; its recording holds the first
    of them and has counted the rest. -/
theorem frames_cross_once {σ : Type} [Link σ] (e : Engine) (link : σ) (capacity outputs : Nat)
    (hpos : 0 < (Link.inputFormat link).channels) (actions : List Action) :
    let width := (Link.inputFormat link).channels
    let limit := e.options.maxRecordSeconds * (Link.inputFormat link).rate
    let s := (fresh (e.start link).1 capacity).run { input := width, output := outputs } actions
    s.offers.map (·.frame) = actions.flatMap (·.offered width)
      ∧ (∀ o ∈ s.offers, o.accepted = true ↔ width ≤ o.room)
      ∧ s.engine.monitor.droppedInputFrames = (Ring.refused s.offers).length
      ∧ width ∣ s.ring.items.size
      ∧ s.handed ++ Frame.cut width (s.ring.items.size / width) s.ring.items.toList
          = Ring.accepted s.offers
      ∧ (∀ f ∈ s.handed, f.length = width)
      ∧ s.engine.monitor.recordedFrames = s.handed.length
      ∧ (∃ r, s.engine.recorded = some r ∧ r.channels = width
          ∧ r.frames.toList = s.handed.take limit ∧ r.dropped = s.handed.length - limit)
      ∧ s.engine.meters
          = Meter.feedFrames (List.replicate width (.fresh e.options.peakDecay)) s.handed := by
  intro width limit s
  let channels : ChannelCounts := { input := width, output := outputs }
  have hstart : Conserves channels.input limit (List.replicate width (.fresh e.options.peakDecay))
      (fresh (e.start link).1 capacity) := conserves_fresh e link capacity hpos
  have h := hstart.run hpos actions
  obtain ⟨held, hring, hpassed⟩ := h.passed
  obtain ⟨r, hr, hholds⟩ := h.recorded
  refine ⟨map_frame_offers_run _ _ actions, h.room, h.dropped_eq, ?_, ?_, h.handed_width,
    h.recordedFrames_eq, ⟨r, hr, hholds.channels_eq, ?_, hholds.dropped_eq⟩, h.meters_eq⟩
  · rw [hring.size_eq]
    exact Nat.dvd_mul_left ..
  · rw [hring.cut_eq hpos]
    exact hpassed
  · exact hholds.frames_of_length h.handed_width

/-- A link with two channels in and one out. -/
def stereoToMono : OfflineLink :=
  { output := { rate := 8000, channels := 1 }, input := { rate := 8000, channels := 2 } }

/-- Three frames and a half come in, then a callback finds the engine in use, and another one does
    not. -/
def busyThenFree : List Action :=
  [.push id [.one, .half, .negOne, .zero, .half, .half, .one],
    .render id .held 4 (by decide),
    .render id .free 3 (by decide)]

/-- A ring that has room for two frames and a half never holds half of one. -/
theorem frames_cross_once_odd_ring :
    let s := (fresh ((Engine.new {}).start stereoToMono).1 5).run { input := 2, output := 1 }
      busyThenFree
    0 < stereoToMono.input.channels
      ∧ s.offers.map (·.frame) = [[.one, .half], [.negOne, .zero], [.half, .half]]
      ∧ s.engine.monitor.droppedInputFrames = (Ring.refused s.offers).length
      ∧ 2 ∣ s.ring.items.size
      ∧ s.engine.monitor.recordedFrames = s.handed.length := by
  intro s
  obtain ⟨hoffers, -, hdropped, hwhole, -, -, hrecorded, -⟩ :=
    frames_cross_once (Engine.new {}) stereoToMono 5 1 (by decide) busyThenFree
  exact ⟨by decide, hoffers, hdropped, hwhole, hrecorded⟩

end Crossing

end Loopback
