import Loopback.Files
import Mathlib.Data.String.Basic

/-! # Paths as text

    A path is split at its slashes.  If names without slashes are joined by slashes and split again,
    the same names result, so the path of a place determines the place.

    * `splitOn_slash` expresses the splitting of a text by its characters.
    * `Plain` names can stand between slashes.  The segments of every path are plain
      (`plain_of_split`), and the path of a place is split into plain names again (`split_pathOf`).
-/

namespace Loopback.FileTree

open String (utf8Len)

/-! ### Splitting text -/

/-- Splitting proceeds from a position in the text: `done` has been split already, `part` is the
    current piece so far, and `rest` is still to come. -/
theorem splitOnAux_slash (done part rest : List Char) (pieces : List String) :
    (String.ofList (done ++ part ++ rest)).splitOnAux "/" ⟨utf8Len done⟩
        ⟨utf8Len done + utf8Len part⟩ 0 pieces
      = pieces.reverse
          ++ (List.splitOnPPrepend (· == '/') rest part.reverse).map String.ofList := by
  induction rest generalizing done part pieces with
  | nil =>
    have hend : (⟨utf8Len done + utf8Len part⟩ : String.Pos.Raw).atEnd
        (String.ofList (done ++ part ++ [])) = true := by
      rw [String.atEnd_iff, String.rawEndPos_ofList, String.Pos.Raw.mk_le_mk]
      simp
    rw [String.splitOnAux, if_pos hend, String.extract_of_valid]
    simp [List.splitOnPPrepend]
  | cons c rest ih =>
    let here : String.Pos.Raw := ⟨utf8Len done + utf8Len part⟩
    let text := String.ofList (done ++ part ++ c :: rest)
    have hend : ¬here.atEnd text = true := by
      rw [String.atEnd_iff, String.rawEndPos_ofList, String.Pos.Raw.mk_le_mk]
      have hwide := c.utf8Size_pos
      simp only [String.utf8Len_append, String.utf8Len_cons]
      omega
    have hget : here.get text = c := by
      have hhead := String.get_of_valid (done ++ part) (c :: rest)
      rwa [String.utf8Len_append] at hhead
    have hnext : here.next text = ⟨utf8Len done + utf8Len part + c.utf8Size⟩ := by
      have hstep := String.next_of_valid (done ++ part) c rest
      rwa [String.utf8Len_append] at hstep
    have hpart : String.Pos.Raw.extract text ⟨utf8Len done⟩ here = String.ofList part :=
      String.extract_of_valid done part (c :: rest)
    have hslash : (0 : String.Pos.Raw).get "/" = '/' := by decide
    show text.splitOnAux "/" ⟨utf8Len done⟩ here 0 pieces = _
    rw [String.splitOnAux, if_neg hend, hget, hslash]
    by_cases hc : c = '/'
    · -- the separator is one character, so a piece ends here
      subst hc
      have hwhole : ((0 : String.Pos.Raw).next "/").atEnd "/" = true := by decide
      have hback : (here.next text).unoffsetBy ((0 : String.Pos.Raw).next "/") = here := by
        rw [hnext]
        rfl
      have htext : done ++ part ++ ['/'] ++ [] ++ rest = done ++ part ++ '/' :: rest := by simp
      have hlength : utf8Len (done ++ part ++ ['/'])
          = utf8Len done + utf8Len part + Char.utf8Size '/' := by simp [Nat.add_assoc]
      have hrest := ih (done ++ part ++ ['/']) [] (String.ofList part :: pieces)
      rw [htext, hlength] at hrest
      simp only [hwhole, beq_self_eq_true, if_true]
      rw [hback, hpart, hnext]
      refine hrest.trans ?_
      simp [List.splitOnPPrepend]
    · have hstay : here.unoffsetBy 0 = here := rfl
      have htext : done ++ (part ++ [c]) ++ rest = done ++ part ++ c :: rest := by simp
      have hlength : utf8Len done + utf8Len (part ++ [c])
          = utf8Len done + utf8Len part + c.utf8Size := by simp [Nat.add_assoc]
      have hrest := ih done (part ++ [c]) pieces
      rw [htext, hlength] at hrest
      simp only [beq_iff_eq, hc, if_false]
      rw [hstay, hnext]
      refine hrest.trans ?_
      simp [List.splitOnPPrepend, hc]

/-- Splitting a text at slashes splits its characters at slashes. -/
theorem splitOn_slash (text : String) :
    text.splitOn "/" = (text.toList.splitOn '/').map String.ofList := by
  have hcut := splitOnAux_slash [] [] text.toList []
  rw [List.append_nil, List.nil_append, String.ofList_toList] at hcut
  have hseparator : ¬("/" == "") = true := by decide
  rw [String.splitOn, if_neg hseparator, List.splitOn, List.splitOnP_eq_splitOnPPrepend]
  exact hcut

/-- The pieces contain no slash, and all their characters are in the text. -/
theorem of_mem_splitOn {text piece : List Char} (h : piece ∈ text.splitOn '/') {c : Char}
    (hc : c ∈ piece) : c ∈ text ∧ c ≠ '/' := by
  induction text generalizing piece with
  | nil =>
    rw [List.splitOn_nil, List.mem_singleton] at h
    simp [h] at hc
  | cons x text ih =>
    rw [List.splitOn, List.splitOnP_cons_eq_if_modifyHead] at h
    by_cases hx : (x == '/') = true
    · rw [if_pos hx, List.mem_cons] at h
      rcases h with rfl | h
      · cases hc
      · obtain ⟨hmem, hne⟩ := ih h hc
        exact ⟨List.mem_cons_of_mem x hmem, hne⟩
    · obtain ⟨first, others, hsplit⟩ := List.exists_cons_of_ne_nil
        (List.splitOnP_ne_nil (· == '/') text)
      rw [if_neg hx, hsplit, List.modifyHead_cons, List.mem_cons] at h
      have hpieces : text.splitOn '/' = first :: others := hsplit
      rcases h with rfl | h
      · rcases List.mem_cons.mp hc with rfl | hc
        · exact ⟨List.mem_cons_self, by simpa using hx⟩
        · obtain ⟨hmem, hne⟩ := ih (hpieces ▸ List.mem_cons_self) hc
          exact ⟨List.mem_cons_of_mem x hmem, hne⟩
      · obtain ⟨hmem, hne⟩ := ih (hpieces ▸ List.mem_cons_of_mem first h) hc
        exact ⟨List.mem_cons_of_mem x hmem, hne⟩

/-! ### Names -/

/-- A name that can stand between slashes. -/
structure Plain (name : String) : Prop where
  no_slash : '/' ∉ name.toList
  no_nul : '\x00' ∉ name.toList

theorem plain_of_mem_splitOn {text segment : String} (htext : '\x00' ∉ text.toList)
    (h : segment ∈ text.splitOn "/") : Plain segment := by
  rw [splitOn_slash, List.mem_map] at h
  obtain ⟨piece, hpiece, rfl⟩ := h
  constructor
  · intro hslash
    rw [String.toList_ofList] at hslash
    exact (of_mem_splitOn hpiece hslash).2 rfl
  · intro hnul
    rw [String.toList_ofList] at hnul
    exact htext (of_mem_splitOn hpiece hnul).1

/-- Plain names that are joined by slashes are split into the same names. -/
theorem splitOn_intercalate {names : List String} (hsome : names ≠ [])
    (h : ∀ name ∈ names, Plain name) : ("/".intercalate names).splitOn "/" = names := by
  have hcut : (['/'].intercalate (names.map String.toList)).splitOn '/'
      = names.map String.toList := by
    apply List.splitOn_intercalate
    · intro chars hchars
      obtain ⟨name, hname, rfl⟩ := List.mem_map.mp hchars
      exact (h name hname).no_slash
    · simpa using hsome
  have htext : ("/".intercalate names).toList = ['/'].intercalate (names.map String.toList) :=
    String.toList_intercalate
  rw [splitOn_slash, htext, hcut, List.map_map]
  simp

/-- Joined plain names contain no NUL. -/
theorem not_mem_intercalate {names : List String} (h : ∀ name ∈ names, Plain name) :
    '\x00' ∉ ("/".intercalate names).toList := by
  induction names with
  | nil => simp
  | cons name names ih =>
    have hname := (h name List.mem_cons_self).no_nul
    have hothers := ih fun other hother => h other (List.mem_cons_of_mem name hother)
    cases names with
    | nil => simpa using hname
    | cons next names =>
      rw [String.intercalate_cons_cons]
      simp only [String.toList_append, List.mem_append, not_or]
      exact ⟨⟨hname, by decide⟩, hothers⟩

/-! ### Paths -/

section

variable {t : FileTree} {path : String} {start : Place} {segments : List String}

/-- A path starts at the root or in the working directory, and its segments are plain. -/
theorem plain_of_split (h : t.split path = .ok (start, segments)) :
    (start = [] ∨ start = t.workingDirectory) ∧ ∀ segment ∈ segments, Plain segment := by
  unfold split at h
  split at h
  · cases h
  · next hnul =>
    have htext : '\x00' ∉ path.toList := by simpa using hnul
    split at h
    · cases h
    · split at h
      · obtain ⟨rfl, rfl⟩ := Prod.mk.inj (Except.ok.inj h)
        refine ⟨.inl rfl, fun segment hsegment => plain_of_mem_splitOn ?_ hsegment⟩
        intro hmem
        have hrest : (path.drop 1).toString.toList = path.toList.drop 1 := by simp
        rw [hrest] at hmem
        exact htext (List.mem_of_mem_drop hmem)
      · obtain ⟨rfl, rfl⟩ := Prod.mk.inj (Except.ok.inj h)
        exact ⟨.inr rfl, fun segment hsegment => plain_of_mem_splitOn htext hsegment⟩

end

/-- A path that does not begin with a slash starts in the working directory. -/
theorem split_of_relative (t : FileTree) {path : String} (hsome : path.toList ≠ [])
    (hnul : '\x00' ∉ path.toList) (hrelative : path.toList.head? ≠ some '/') :
    t.split path = .ok (t.workingDirectory, (path.toList.splitOn '/').map String.ofList) := by
  have hnul' : path.contains '\x00' = false := by
    rw [String.contains_char_eq, decide_eq_false_iff_not]
    exact hnul
  have hsome' : path.isEmpty = false := by
    rwa [Bool.eq_false_iff, ne_eq, String.isEmpty_iff, ← String.toList_eq_nil_iff]
  have hrelative' : path.startsWith "/" = false := by
    rw [Bool.eq_false_iff, ne_eq, String.startsWith_string_iff]
    rintro ⟨rest, hrest⟩
    rw [← hrest] at hrelative
    exact hrelative rfl
  rw [split, hnul', hsome', hrelative', ← splitOn_slash]
  rfl

/-- The path of a place starts at the root and has the place's names as its segments; that of the
    root has one empty segment. -/
theorem split_pathOf (t : FileTree) {place : Place} (h : ∀ name ∈ place, Plain name) :
    t.split (pathOf place) = .ok ([], if place = [] then [""] else place) := by
  have htext : (pathOf place).toList = '/' :: ("/".intercalate place).toList := by
    simp [pathOf]
  have hnul : (pathOf place).contains '\x00' = false := by
    rw [String.contains_char_eq, htext, decide_eq_false_iff_not, List.mem_cons, not_or]
    exact ⟨by decide, not_mem_intercalate h⟩
  have hsome : (pathOf place).isEmpty = false := by
    rw [Bool.eq_false_iff, ne_eq, String.isEmpty_iff, ← String.toList_eq_nil_iff, htext]
    exact List.cons_ne_nil _ _
  have habsolute : (pathOf place).startsWith "/" = true := by
    rw [String.startsWith_string_iff, htext]
    exact ⟨_, rfl⟩
  have hrest : ((pathOf place).drop 1).toString = "/".intercalate place := by
    have hchars : ((pathOf place).drop 1).toString.toList = (pathOf place).toList.drop 1 := by simp
    rw [htext, List.drop_one, List.tail_cons] at hchars
    exact String.toList_inj.mp hchars
  rw [split, hnul, hsome, habsolute, hrest]
  simp only [Bool.false_eq_true, if_false, if_true]
  by_cases hroot : place = []
  · rw [hroot, if_pos rfl, String.intercalate_nil, splitOn_slash]
    rfl
  · rw [if_neg hroot, splitOn_intercalate hroot h]

end Loopback.FileTree
