import Loopback.Proofs.Callback.Chunks

/-! # Callbacks of any size

    The result of an engine does not depend on how a device cuts time into callbacks.  A block of
    input and a block of output may each be cut into pieces between any two frames.  Calling the
    engine with one piece after the other leaves the same state as one call with the whole blocks,
    and the pieces of output add up to the output of that call.

    * `Piece` is what one callback gets: whole frames in either direction, possibly none.
    * `process_append` joins two callbacks to one, `process_pieces` any number of them.
-/

namespace Loopback

/-- What one callback of a stream gets: whole frames that were heard, and a buffer with room for
    whole frames. -/
structure Piece (channels : ChannelCounts) where
  input : List Sample
  output : List Sample
  input_whole : channels.input ∣ input.length
  output_whole : channels.output ∣ output.length

namespace Engine

variable {channels : ChannelCounts}

/-- A callback that hears all frames of its input and has room for all frames of its output. -/
def processWhole (channels : ChannelCounts) (e : Engine) (input output : List Sample) :
    Engine × List Sample :=
  e.process input (Frame.available channels.input input) output
    (Frame.available channels.output output) channels

/-- Processes the pieces one after the other, and concatenates the buffers. -/
def processPieces (e : Engine) : List (Piece channels) → Engine × List Sample
  | [] => (e, [])
  | p :: pieces =>
    let first := processWhole channels e p.input p.output
    let rest := first.1.processPieces pieces
    (rest.1, first.2 ++ rest.2)

/-! ### Two callbacks -/

theorem processWhole_eq (hin : 0 < channels.input) (hout : 0 < channels.output) (e : Engine)
    (input : List Sample) {output : List Sample} (hwhole : channels.output ∣ output.length) :
    processWhole channels e input output
      = ((e.afterPlaying channels.output (Frame.available channels.output output)).afterHearing
            (Frame.cut channels.input (Frame.available channels.input input) input),
          e.block channels.output (Frame.available channels.output output)) :=
  e.process_full input hin hout (Nat.div_mul_cancel hwhole).symm

/-- **Two callbacks are one.** The frames that are heard are recorded, metered and counted in the
    same order, and playing continues where it stopped. -/
theorem process_append (hin : 0 < channels.input) (hout : 0 < channels.output) (e : Engine)
    {a x y : List Sample} (ha : channels.input ∣ a.length) (hx : channels.output ∣ x.length)
    (hy : channels.output ∣ y.length) (b : List Sample) :
    let first := processWhole channels e a x
    let second := processWhole channels first.1 b y
    processWhole channels e (a ++ b) (x ++ y) = (second.1, first.2 ++ second.2) := by
  have hxy : channels.output ∣ (x ++ y).length := by
    rw [List.length_append]
    exact Nat.dvd_add hx hy
  have hcut : Frame.cut channels.input (Frame.available channels.input (a ++ b)) (a ++ b)
      = Frame.cut channels.input (Frame.available channels.input a) a
        ++ Frame.cut channels.input (Frame.available channels.input b) b := by
    rw [Frame.available_append hin ha]
    exact Frame.cut_append (Nat.div_mul_cancel ha).symm _ b
  intro first second
  have hfirst : first = _ := processWhole_eq hin hout e a hx
  have hsecond : second = _ := processWhole_eq hin hout first.1 b hy
  rw [hsecond, hfirst, processWhole_eq hin hout e _ hxy, hcut, Frame.available_append hout hx,
    afterHearing_append, afterHearing_then_afterPlaying, block_add, block_afterHearing]

/-! ### Any number of callbacks -/

/-- Pieces of whole frames make up a block of whole frames. -/
theorem dvd_length_flatMap {α : Type} {width : Nat} {part : α → List Sample}
    (hwhole : ∀ a, width ∣ (part a).length) (pieces : List α) :
    width ∣ (pieces.flatMap part).length := by
  induction pieces with
  | nil => simp
  | cons a pieces ih =>
    rw [List.flatMap_cons, List.length_append]
    exact Nat.dvd_add (hwhole a) ih

/-- One or more callbacks are one. -/
theorem processPieces_cons (hin : 0 < channels.input) (hout : 0 < channels.output) (e : Engine)
    (p : Piece channels) (pieces : List (Piece channels)) :
    e.processPieces (p :: pieces)
      = processWhole channels e ((p :: pieces).flatMap (·.input))
          ((p :: pieces).flatMap (·.output)) := by
  -- the first piece stays in front, so that the block is never without a callback
  induction pieces generalizing e p with
  | nil =>
    simp only [processPieces, List.flatMap_cons, List.flatMap_nil, List.append_nil]
  | cons q pieces ih =>
    let first := processWhole channels e p.input p.output
    have hstep : e.processPieces (p :: q :: pieces)
        = ((first.1.processPieces (q :: pieces)).1,
            first.2 ++ (first.1.processPieces (q :: pieces)).2) := rfl
    have hrest := ih first.1 q
    have hwhole : channels.output ∣ ((q :: pieces).flatMap (·.output)).length :=
      dvd_length_flatMap (·.output_whole) _
    have hboth := process_append hin hout e p.input_whole p.output_whole hwhole
      ((q :: pieces).flatMap (·.input))
    rw [hstep, hrest]
    exact hboth.symm

/-- If the monitor shows the cursor, playing no frames changes nothing. -/
theorem afterPlaying_zero {e : Engine} (hposition : e.monitor.position = e.cursor)
    (outputs : Nat) : e.afterPlaying outputs 0 = e := by
  have hmonitor : { e.monitor with position := e.cursor } = e.monitor := by
    rw [← hposition]
  cases hclip : e.clip with
  | none => simp only [afterPlaying, hclip]
  | some clip =>
    simp only [afterPlaying, hclip, Clip.play_zero, Recording.map_writeFrames_nil, List.length_nil,
      Nat.add_zero, hmonitor]
    rw [← hclip]

/-- A callback without input and without room for output changes nothing. -/
theorem processWhole_nil (hin : 0 < channels.input) (hout : 0 < channels.output) {e : Engine}
    (hposition : e.monitor.position = e.cursor) :
    processWhole channels e [] [] = (e, []) := by
  have hnone (width : Nat) : Frame.available width [] = 0 := Nat.zero_div width
  have hblock : e.block channels.output 0 = [] := by
    rw [← List.length_eq_zero_iff, length_block, Nat.zero_mul]
  have hwhole : channels.output ∣ ([] : List Sample).length := Nat.dvd_zero _
  rw [processWhole_eq hin hout e [] hwhole, hnone, hnone,
    afterPlaying_zero hposition, Frame.cut_zero, afterHearing_nil, hblock]

/-- **A callback may be cut into pieces.** For any engine, and wherever the input and the output of
    a callback are cut between frames, calling the engine with one piece after the other leaves the
    same engine and the same output as one call with the whole of both.  If there is no piece at
    all, the monitor must already show the cursor, as it does after every call. -/
theorem process_pieces (e : Engine) (hin : 0 < channels.input) (hout : 0 < channels.output)
    (pieces : List (Piece channels)) (hposition : pieces = [] → e.monitor.position = e.cursor) :
    let input := pieces.flatMap (·.input)
    let output := pieces.flatMap (·.output)
    e.processPieces pieces
      = e.process input (input.length / channels.input) output
          (output.length / channels.output) channels := by
  cases pieces with
  | nil =>
    exact (processWhole_nil hin hout (hposition rfl)).symm
  | cons p pieces => exact processPieces_cons hin hout e p pieces

/-- One channel in and two out, cut so that some pieces have no input and some have no output. -/
def threePieces : List (Piece { input := 1, output := 2 }) :=
  [{ input := [], output := [.half, .half], input_whole := by decide, output_whole := by decide },
    { input := [.one, .half], output := [], input_whole := by decide, output_whole := by decide },
    { input := [.negOne], output := Frame.silence 4, input_whole := by decide,
      output_whole := by decide }]

/-- The clip of two frames starts over in the middle of the third piece. -/
theorem process_three_pieces :
    0 < 1 ∧ 0 < 2 ∧ (threePieces = [] → twoFrameEngine.monitor.position = twoFrameEngine.cursor)
      ∧ twoFrameEngine.processPieces threePieces
        = twoFrameEngine.process [.one, .half, .negOne] 3
            [.half, .half, .zero, .zero, .zero, .zero] 3 { input := 1, output := 2 }
      ∧ (twoFrameEngine.processPieces threePieces).2
        = [.one, .one, .negOne, .negOne, .one, .one] := by
  have hpieces := process_pieces twoFrameEngine (by decide) (by decide) threePieces fun _ => rfl
  exact ⟨by decide, by decide, fun _ => rfl, hpieces, congrArg Prod.snd hpieces⟩

end Engine

end Loopback
