import Loopback.Proofs.Frame
import Loopback.Ring

/-! # What a ring accepts and returns

    The ring is a queue of samples.  Frames of one width are pushed as a whole and popped as a
    whole, so a ring that was only ever offered frames of one width holds a whole number of them.

    * `Ring.Frames` says which frames a ring holds.
    * `offers` follows frames through `pushFrames` one by one and records the result for each; the
      ring holds those that were accepted, in order (`Frames.pushFrames`).
    * `popFrames` returns everything up to the last whole frame (`popFrames_eq`), which is
      everything in a ring of whole frames (`Frames.popFrames_eq`).
-/

namespace Loopback.Ring

/-! ### Popping -/

/-- The samples of all whole frames come out, oldest first; the rest stays. -/
theorem popFrames_eq (r : Ring) (width : Nat) :
    r.popFrames width
      = ({ r with
            items := (r.items.toList.drop (r.items.size / width * width)).toArray },
          r.items.toList.take (r.items.size / width * width)) := by
  have hwhole : r.items.size - r.items.size % width = r.items.size / width * width := by
    have := Nat.div_add_mod r.items.size width
    rw [Nat.mul_comm] at this
    omega
  have hrest : r.items.extract (r.items.size / width * width) r.items.size
      = (r.items.toList.drop (r.items.size / width * width)).toArray := by
    apply Array.ext'
    simp [List.take_of_length_le]
  simp only [popFrames, hwhole, hrest, Array.toList_extract, List.extract_eq_take_drop,
    Nat.sub_zero, List.drop_zero]

/-! ### Whole frames -/

/-- The ring holds these frames, all of one width, and nothing else. -/
structure Frames (r : Ring) (width : Nat) (frames : List Frame) : Prop where
  items_eq : r.items.toList = frames.flatten
  width_eq : ∀ f ∈ frames, f.length = width

theorem frames_new (capacity width : Nat) : (new capacity).Frames width [] where
  items_eq := rfl
  width_eq := by simp

section

variable {r : Ring} {width : Nat} {frames : List Frame}

theorem Frames.size_eq (h : r.Frames width frames) : r.items.size = frames.length * width := by
  rw [← Array.length_toList, h.items_eq, Frame.length_flatten h.width_eq]

/-- The frames can be read off the ring. -/
theorem Frames.cut_eq (h : r.Frames width frames) (hpos : 0 < width) :
    Frame.cut width (r.items.size / width) r.items.toList = frames := by
  have := Frame.cut_flatten h.width_eq []
  rw [List.append_nil] at this
  rw [h.size_eq, Nat.mul_div_cancel _ hpos, h.items_eq, this]

theorem Frames.push (h : r.Frames width frames) {f : Frame} (hf : f.length = width) :
    (r.push f).Frames width (frames ++ [f]) where
  items_eq := by simp [Ring.push, h.items_eq]
  width_eq := by
    intro g hg
    rcases List.mem_append.mp hg with hg | hg
    · exact h.width_eq g hg
    · rw [List.mem_singleton.mp hg]
      exact hf

/-- All frames come out, and the ring is empty afterwards. -/
theorem Frames.popFrames_eq (h : r.Frames width frames) (hpos : 0 < width) :
    r.popFrames width = ({ r with items := #[] }, frames.flatten) := by
  have hall : r.items.size / width * width = r.items.toList.length := by
    rw [Array.length_toList, h.size_eq, Nat.mul_div_cancel _ hpos]
  rw [Ring.popFrames_eq, hall, List.take_length, List.drop_length, h.items_eq]

end

/-! ### Pushing -/

/-- A frame that was offered, and whether it was accepted. -/
structure Offer where
  frame : Frame
  /-- The number of free samples when it was offered. -/
  room : Nat
  /-- Whether the ring accepted it. -/
  accepted : Bool

def accepted (offers : List Offer) : List Frame := (offers.filter (·.accepted)).map (·.frame)

def refused (offers : List Offer) : List Frame := (offers.filter (!·.accepted)).map (·.frame)

/-- The results of pushing frames one after the other. -/
def offers (r : Ring) : List Frame → List Offer
  | [] => []
  | f :: rest =>
    let (next, dropped) := r.pushFrames [f]
    { frame := f, room := r.free, accepted := dropped = 0 } :: next.offers rest

theorem pushFrames_singleton (r : Ring) (f : Frame) :
    r.pushFrames [f] = if r.fits f then (r.push f, 0) else (r, 1) := rfl

/-- The fold only adds to the count of frames that did not fit. -/
theorem pushFrames_cons (r : Ring) (f : Frame) (rest : List Frame) :
    r.pushFrames (f :: rest)
      = (((r.pushFrames [f]).1.pushFrames rest).1,
          (r.pushFrames [f]).2 + ((r.pushFrames [f]).1.pushFrames rest).2) := by
  have hcount : ∀ (frames : List Frame) (r : Ring) (n : Nat),
      frames.foldl
          (fun (r, dropped) frame =>
            if r.fits frame then (r.push frame, dropped) else (r, dropped + 1))
          (r, n)
        = ((r.pushFrames frames).1, n + (r.pushFrames frames).2) := by
    intro frames
    induction frames with
    | nil => intro r n; rfl
    | cons f frames ih =>
      intro r n
      by_cases hfits : r.fits f
      · simp only [pushFrames, List.foldl_cons, hfits, if_true]
        rw [ih, ih _ 0, Nat.zero_add]
      · simp only [pushFrames, List.foldl_cons, hfits, Bool.false_eq_true, if_false]
        rw [ih, ih _ (0 + 1)]
        simp [Nat.add_assoc]
  exact hcount rest (r.pushFrames [f]).1 (r.pushFrames [f]).2

theorem map_frame_offers (r : Ring) (frames : List Frame) :
    (r.offers frames).map (·.frame) = frames := by
  induction frames generalizing r with
  | nil => rfl
  | cons f frames ih => simp [offers, ih]

@[simp] theorem accepted_append (a b : List Offer) :
    accepted (a ++ b) = accepted a ++ accepted b := by
  simp [accepted]

@[simp] theorem refused_append (a b : List Offer) : refused (a ++ b) = refused a ++ refused b := by
  simp [refused]

/-- A frame is accepted exactly if it fits. -/
theorem accepted_iff_room (r : Ring) {width : Nat} {frames : List Frame}
    (hwidth : ∀ f ∈ frames, f.length = width) :
    ∀ o ∈ r.offers frames, o.accepted = true ↔ width ≤ o.room := by
  induction frames generalizing r with
  | nil => simp [offers]
  | cons f frames ih =>
    intro o ho
    rw [offers, List.mem_cons] at ho
    rcases ho with heq | ho
    · have hf : f.length = width := hwidth f (by simp)
      by_cases hfits : r.fits f
      · have hroom : f.length ≤ r.free := by simpa [fits] using hfits
        simp [heq, pushFrames_singleton, hfits, ← hf, hroom]
      · have hroom : ¬f.length ≤ r.free := by simpa [fits] using hfits
        simp [heq, pushFrames_singleton, hfits, ← hf, hroom]
    · exact ih _ (fun g hg => hwidth g (by simp [hg])) o ho

/-- Pushing appends the accepted frames to those in the ring, and counts the others. -/
theorem Frames.pushFrames {r : Ring} {width : Nat} {held : List Frame} (h : r.Frames width held)
    {frames : List Frame} (hwidth : ∀ f ∈ frames, f.length = width) :
    (r.pushFrames frames).1.Frames width (held ++ accepted (r.offers frames))
      ∧ (r.pushFrames frames).2 = (refused (r.offers frames)).length := by
  -- each frame meets the ring that the frames before it have left
  induction frames generalizing r held with
  | nil => simpa [Ring.pushFrames, offers, accepted, refused] using h
  | cons f frames ih =>
    have hf : f.length = width := hwidth f (by simp)
    have hrest : ∀ g ∈ frames, g.length = width := fun g hg => hwidth g (by simp [hg])
    rw [pushFrames_cons, offers]
    by_cases hfits : r.fits f
    · obtain ⟨hin, hout⟩ := ih (h.push hf) hrest
      simp only [pushFrames_singleton, hfits, if_true, hout, Nat.zero_add]
      refine ⟨?_, by simp [refused]⟩
      simpa [accepted] using hin
    · obtain ⟨hin, hout⟩ := ih h hrest
      simp only [pushFrames_singleton, hfits, Bool.false_eq_true, if_false, hout]
      refine ⟨?_, by simp [refused, Nat.add_comm]⟩
      simpa [accepted] using hin

end Loopback.Ring
