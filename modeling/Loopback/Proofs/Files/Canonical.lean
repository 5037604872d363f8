import Loopback.Proofs.Files
import Loopback.Proofs.Files.Segments

/-! # Canonical paths

    A path may take detours: through directories and back up, through the working directory, or over
    segments that stay in place.  The place that it leads to has a path of its own, which lists the
    names from the root.  It leads to the same place, so making it canonical again changes nothing.

    * `Stands` says of a place that its names lead to it from the root.  This holds of the root and
      is preserved by every step (`Stands.step`), so it holds wherever a path leads
      (`stands_of_locate`).
    * `locate_pathOf` is the law of canonical paths.
-/

namespace Loopback.FileTree

/-- The names of a place lead to it, one step after the other from the root. -/
inductive Stands (t : FileTree) : Place → Prop where
  | root : Stands t []
  | down {above : Place} {name : String} (stands : Stands t above) (plain : Plain name)
      (step_eq : t.step above name = .ok (above ++ [name])) : Stands t (above ++ [name])

section

variable {t : FileTree} {here there start place : Place} {segment path : String}
  {segments : List String}

/-- A step stays, goes up, or goes down to the segment. -/
theorem step_cases (h : t.step here segment = .ok there) :
    there = here ∨ there = here.dropLast ∨ there = here ++ [segment] := by
  rw [step, Except.check_eq_ok] at h
  obtain ⟨-, h⟩ := h
  split at h
  · exact .inl (Except.ok.inj h).symm
  · split at h
    · exact .inr (.inl (Except.ok.inj h).symm)
    · rw [Except.check_eq_ok] at h
      obtain ⟨-, h⟩ := h
      dsimp only at h
      split at h
      · exact .inr (.inr (Except.ok.inj h).symm)
      · cases h

/-! ### Places that paths lead to -/

theorem Stands.dropLast (h : t.Stands here) : t.Stands here.dropLast := by
  cases h with
  | root => exact .root
  | down stands plain step_eq =>
    rw [List.dropLast_concat]
    exact stands

theorem Stands.step (h : t.Stands here) (hplain : Plain segment)
    (hstep : t.step here segment = .ok there) : t.Stands there := by
  rcases step_cases hstep with rfl | rfl | rfl
  · exact h
  · exact h.dropLast
  · exact h.down hplain hstep

theorem Stands.walk (h : t.Stands start) (hplain : ∀ segment ∈ segments, Plain segment)
    (hwalk : t.walk start segments = .ok place) : t.Stands place := by
  induction segments generalizing start with
  | nil =>
    obtain rfl := Except.ok.inj hwalk
    exact h
  | cons segment segments ih =>
    rw [FileTree.walk, List.foldlM_cons, Except.bind_eq_ok] at hwalk
    obtain ⟨next, hstep, hrest⟩ := hwalk
    have hnext := h.step (hplain segment List.mem_cons_self) hstep
    exact ih hnext (fun other hother => hplain other (List.mem_cons_of_mem segment hother)) hrest

/-- If the names of the working directory lead to it, then the names of every place that a path
    leads to lead there. -/
theorem stands_of_locate (hstart : t.Stands t.workingDirectory)
    (h : t.locate path = .ok place) : t.Stands place := by
  rw [locate, Except.bind_eq_ok] at h
  obtain ⟨⟨start, segments⟩, hsplit, hwalk⟩ := h
  obtain ⟨hfrom, hplain⟩ := plain_of_split hsplit
  have hstands : t.Stands start := by
    rcases hfrom with rfl | rfl
    · exact .root
    · exact hstart
  exact hstands.walk hplain hwalk

/-! ### Paths that lead to places -/

theorem Stands.plain (h : t.Stands place) : ∀ name ∈ place, Plain name := by
  induction h with
  | root => simp
  | down _ plain _ ih =>
    intro name hname
    rcases List.mem_append.mp hname with hname | hname
    · exact ih name hname
    · rwa [List.mem_singleton.mp hname]

theorem Stands.walk_root (h : t.Stands place) : t.walk [] place = .ok place := by
  induction h with
  | root => rfl
  | down _ _ step_eq ih =>
    rw [FileTree.walk, List.foldlM_append, Except.bind_eq_ok]
    refine ⟨_, ih, ?_⟩
    rw [List.foldlM_cons, step_eq]
    rfl

theorem Stands.locate_eq (h : t.Stands place) : t.locate (pathOf place) = .ok place := by
  rw [locate, split_pathOf t h.plain]
  show t.walk [] (if place = [] then [""] else place) = .ok place
  by_cases hroot : place = []
  · rw [if_pos hroot, hroot]
    rfl
  · rw [if_neg hroot, h.walk_root]

/-- **The canonical path of a place that a path leads to leads there, too.** -/
theorem locate_pathOf (hstart : t.Stands t.workingDirectory) (h : t.locate path = .ok place) :
    t.locate (pathOf place) = .ok place :=
  (stands_of_locate hstart h).locate_eq

end

end Loopback.FileTree
