import Loopback.Files
import Loopback.Proofs.Except

/-! # What is written can be read

    A file can be written to a path that leads to a name in a directory, unless that name is itself
    a directory's.  After the write the path still leads to the same place, so the file can be read
    back and written again.

    * `Opens` says that a path can be written to, and where that is.
    * `write_eq_ok_iff` characterises successful writes.
    * `read_of_write` is the law of reading what was written, and `exists_read` makes a file of any
      bytes.
-/

namespace Loopback.FileTree

/-! ### Places -/

theorem lookup_filter_ne {nodes : List (Place × FileNode)} {place other : Place}
    (hne : other ≠ place) :
    (nodes.filter (·.1 != place)).lookup other = nodes.lookup other := by
  induction nodes with
  | nil => rfl
  | cons entry nodes ih =>
    obtain ⟨key, node⟩ := entry
    by_cases hkey : key = place
    · subst hkey
      have hother : (other == key) = false := by simpa using hne
      simp only [List.filter_cons, bne_self_eq_false, Bool.false_eq_true, if_false,
        List.lookup_cons, hother, ih]
    · have hkept : (key != place) = true := by simpa using hkey
      simp only [List.filter_cons, hkept, if_true, List.lookup_cons, ih]

theorem node?_put_self (t : FileTree) {place : Place} (hplace : place ≠ []) (node : FileNode) :
    (t.put place node).node? place = some node := by
  cases place with
  | nil => exact absurd rfl hplace
  | cons name below => simp [node?, put]

/-- Other places keep their nodes. -/
theorem node?_put_of_ne (t : FileTree) {place other : Place} (hne : other ≠ place)
    (node : FileNode) : (t.put place node).node? other = t.node? other := by
  have hother : (other == place) = false := by simpa using hne
  simp [node?, put, List.lookup_cons, hother, lookup_filter_ne hne]

theorem isDirectoryAt_put_of_ne (t : FileTree) {place other : Place} (hne : other ≠ place)
    (node : FileNode) : (t.put place node).isDirectoryAt other = t.isDirectoryAt other := by
  rw [isDirectoryAt, node?_put_of_ne t hne, isDirectoryAt]

/-- A file is no directory. -/
theorem isDirectoryAt_put_file (t : FileTree) {place : Place} (hplace : place ≠ [])
    (content : ByteArray) : (t.put place (.file content)).isDirectoryAt place = false := by
  rw [isDirectoryAt, node?_put_self t hplace]

/-! ### Walking past a file -/

section

variable (t : FileTree) {place : Place} (content : ByteArray)

/-- A file where no directory stood blocks no way. -/
theorem step_put_file (hplace : place ≠ []) (hfile : t.isDirectoryAt place = false)
    {here there : Place} {segment : String} (h : t.step here segment = .ok there) :
    (t.put place (.file content)).step here segment = .ok there := by
  simp only [step, Except.check_eq_ok] at h ⊢
  obtain ⟨hdir, h⟩ := h
  have hne : here ≠ place := by
    rintro rfl
    simp [hfile] at hdir
  refine ⟨by rwa [isDirectoryAt_put_of_ne t hne], ?_⟩
  by_cases hstay : (segment.isEmpty || segment == ".") = true
  · rwa [if_pos hstay] at h ⊢
  · rw [if_neg hstay] at h ⊢
    by_cases hup : (segment == "..") = true
    · rwa [if_pos hup] at h ⊢
    · rw [if_neg hup, Except.check_eq_ok] at h ⊢
      refine ⟨h.1, ?_⟩
      -- what stood there stands there still, or else it is the file
      by_cases hbelow : here ++ [segment] = place
      · have hsome : (t.node? (here ++ [segment])).isSome = true := by
          by_cases hsome : (t.node? (here ++ [segment])).isSome = true
          · exact hsome
          · rw [if_neg hsome] at h
            exact absurd h.2 (by simp)
        rw [if_pos hsome] at h
        rw [hbelow, node?_put_self t hplace, ← hbelow]
        exact h.2
      · rw [node?_put_of_ne t hbelow]
        exact h.2

theorem walk_put_file (hplace : place ≠ []) (hfile : t.isDirectoryAt place = false)
    {start dest : Place} {segments : List String} (h : t.walk start segments = .ok dest) :
    (t.put place (.file content)).walk start segments = .ok dest := by
  induction segments generalizing start with
  | nil => exact h
  | cons segment segments ih =>
    simp only [walk, List.foldlM_cons, Except.bind_eq_ok] at h ⊢
    obtain ⟨next, hstep, hrest⟩ := h
    exact ⟨next, step_put_file t content hplace hfile hstep, ih hrest⟩

end

/-! ### Writing -/

/-- A file can be written to a path: the path leads to a name in a directory, and that name is not a
    directory's.  The file goes to `place`. -/
structure Opens (t : FileTree) (path : String) (start : Place) (above : List String)
    (dir : Place) (name : String) : Prop where
  segments_eq : t.segments path = .ok (start, above ++ [name])
  walk_eq : t.walk start above = .ok dir
  isDirectory : t.isDirectoryAt dir = true
  name_nonempty : name.isEmpty = false
  name_ordinary : (name == "." || name == "..") = false
  name_short : ¬maxNameBytes < name.utf8ByteSize
  free : t.isDirectoryAt (dir ++ [name]) = false

/-- If empty names are dropped from one end, the rest begins with a nonempty name; if none were
    dropped, the rest is everything. -/
theorem eq_append_of_dropWhile {segments above : List String} {name : String}
    (h : segments.reverse.dropWhile (·.isEmpty) = name :: above)
    (hwhole : ¬(name :: above).length < segments.length) :
    segments = above.reverse ++ [name] ∧ name.isEmpty = false := by
  -- a suffix that is no shorter is the whole
  have hall : name :: above = segments.reverse := by
    have hsuffix : name :: above <:+ segments.reverse := h ▸ List.dropWhile_suffix _
    apply hsuffix.eq_of_length_le
    rw [List.length_reverse]
    omega
  constructor
  · rw [← List.reverse_reverse segments, ← hall, List.reverse_cons]
  · by_cases hempty : name.isEmpty = true
    · rw [← hall, List.dropWhile_cons_of_pos hempty] at h
      have hle := (List.dropWhile_suffix (l := above) (·.isEmpty)).length_le
      rw [h, List.length_cons] at hle
      omega
    · simpa using hempty

/-- Writing succeeds exactly if the path can be written to. -/
theorem write_eq_ok_iff (t t' : FileTree) (path : String) (content : ByteArray) :
    t.write path content = .ok t'
      ↔ ∃ start above dir name, t.Opens path start above dir name
          ∧ t' = t.put (dir ++ [name]) (.file content) := by
  constructor
  · intro h
    simp only [write, Except.bind_eq_ok] at h
    obtain ⟨⟨start, segments⟩, hsegments, h⟩ := h
    dsimp only at h
    split at h
    · cases h
    · next name above hnamed =>
      -- one fact for each check, in the order in which they are made
      simp only [Except.bind_eq_ok, Except.check_eq_ok] at h
      obtain ⟨dir, hwalk, hdir, hordinary, hwhole, hshort, hfree, heq⟩ := h
      rw [hnamed] at hwhole
      obtain ⟨rfl, hname⟩ := eq_append_of_dropWhile hnamed hwhole
      refine ⟨start, above.reverse, dir, name, ⟨hsegments, hwalk, ?_, hname, ?_, hshort, ?_⟩, ?_⟩
      · simpa using hdir
      · simpa using hordinary
      · simpa using hfree
      · exact (Except.ok.inj heq).symm
  · rintro ⟨start, above, dir, name, hopens, rfl⟩
    have hreverse : ((above ++ [name]).reverse.dropWhile (·.isEmpty)) = name :: above.reverse := by
      simp [hopens.name_nonempty]
    simp only [write, bind, Except.bind, hopens.segments_eq, hreverse, List.reverse_reverse,
      hopens.walk_eq, hopens.isDirectory, hopens.name_ordinary, hopens.free]
    simp [hopens.name_short]

section

variable {t : FileTree} {path : String} {start dir : Place} {above : List String} {name : String}

/-- Once something was written to a path, it can be written to again. -/
theorem Opens.put (h : t.Opens path start above dir name) (content : ByteArray) :
    (t.put (dir ++ [name]) (.file content)).Opens path start above dir name where
  segments_eq := h.segments_eq
  walk_eq := walk_put_file t content (by simp) h.free h.walk_eq
  isDirectory := by rw [isDirectoryAt_put_of_ne t (by simp), h.isDirectory]
  name_nonempty := h.name_nonempty
  name_ordinary := h.name_ordinary
  name_short := h.name_short
  free := isDirectoryAt_put_file t (by simp) content

theorem Opens.read_put (h : t.Opens path start above dir name) (content : ByteArray) :
    (t.put (dir ++ [name]) (.file content)).read path = .ok content := by
  have hput := h.put content
  have hdot : (name == ".") = false := by
    have := h.name_ordinary
    simp only [Bool.or_eq_false_iff] at this
    exact this.1
  have hup : (name == "..") = false := by
    have := h.name_ordinary
    simp only [Bool.or_eq_false_iff] at this
    exact this.2
  have hnode : (t.put (dir ++ [name]) (.file content)).node? (dir ++ [name])
      = some (.file content) := node?_put_self t (by simp) _
  have hstep : (t.put (dir ++ [name]) (.file content)).step dir name = .ok (dir ++ [name]) := by
    simp [step, hput.isDirectory, h.name_nonempty, hdot, hup, h.name_short, hnode]
  have hresolve : (t.put (dir ++ [name]) (.file content)).resolve path = .ok (dir ++ [name]) := by
    simp only [resolve, Except.bind_eq_ok]
    refine ⟨_, hput.segments_eq, ?_⟩
    show List.foldlM _ _ _ = _
    rw [List.foldlM_append, Except.bind_eq_ok]
    refine ⟨dir, hput.walk_eq, ?_⟩
    rw [List.foldlM_cons, hstep]
    rfl
  simp only [read, Except.bind_eq_ok]
  refine ⟨_, hresolve, ?_⟩
  rw [hnode]

end

/-- **What is written can be read.** -/
theorem read_of_write {t t' : FileTree} {path : String} {content : ByteArray}
    (h : t.write path content = .ok t') : t'.read path = .ok content := by
  obtain ⟨start, above, dir, name, hopens, rfl⟩ := (write_eq_ok_iff ..).mp h
  exact hopens.read_put content

/-- A second write to the same path replaces the first one. -/
theorem write_of_write {t t' : FileTree} {path : String} {content : ByteArray}
    (h : t.write path content = .ok t') (other : ByteArray) :
    ∃ t'', t'.write path other = .ok t'' := by
  obtain ⟨start, above, dir, name, hopens, rfl⟩ := (write_eq_ok_iff ..).mp h
  exact ⟨_, (write_eq_ok_iff ..).mpr ⟨start, above, dir, name, hopens.put content, rfl⟩⟩

/-! ### A path of one name -/

/-- A path of one letter is a name in the working directory. -/
theorem split_letter (t : FileTree) : t.split "a" = .ok (t.workingDirectory, ["a"]) := by
  have hsegments : "a".splitOn "/" = ["a"] := by simp +decide [String.splitOn, String.splitOnAux]
  have hordinary : "a".contains '\x00' = false := by simp
  have hrelative : "a".startsWith "/" = false := by decide +kernel
  have hsome : "a".isEmpty = false := by decide
  simp only [split, hordinary, hsome, hrelative, hsegments, Bool.false_eq_true, if_false]

theorem opens_letter : Opens {} "a" [] [] [] "a" where
  segments_eq := by
    have hshort : ¬maxPathBytes < "a".utf8ByteSize := by decide
    simp only [segments, split_letter, bind, Except.bind, hshort, if_false]
    rfl
  walk_eq := rfl
  isDirectory := rfl
  name_nonempty := by decide
  name_ordinary := by decide
  name_short := by decide
  free := rfl

/-- Any bytes can be written to a file. -/
theorem exists_write (content : ByteArray) : ∃ files, FileTree.write {} "a" content = .ok files :=
  ⟨_, (write_eq_ok_iff ..).mpr ⟨_, _, _, _, opens_letter, rfl⟩⟩

/-- Any bytes can be the content of a file. -/
theorem exists_read (content : ByteArray) : ∃ files : FileTree, files.read "a" = .ok content := by
  obtain ⟨files, hfiles⟩ := exists_write content
  exact ⟨files, read_of_write hfiles⟩

end Loopback.FileTree
