import Loopback.Log.Writer
import Loopback.Proofs.Files

/-! # What a log file holds

    A log file is emptied before a line that would make it too long.  The writer keeps its own count
    of bytes instead of asking for the length of the file, but the two agree.  So the file always
    ends with the newest lines, complete and in order, and exceeds its limit only if a single line
    does.

    * `LogFile` is a file with its writer, and `LogFile.Quiet` says that it is not emptied by some
      lines.
    * `Holds` is the invariant: the file has a content of the length that the writer counts, and can
      be written.  `Holds.writeLine` is the step.
    * `Holds.writeLines` is the law of a run: the file holds the lines since it was last emptied.
-/

namespace Loopback

/-- A log file with its writer. -/
structure LogFile where
  path : String
  writer : LogWriter
  /-- The files, this one among them. -/
  files : FileTree

/-- The writer's count stays right when a line is written. -/
theorem LogWriter.writeLine_eq {w : LogWriter} {content : ByteArray}
    (h : w.bytesWritten = content.size) (line : String) :
    let next := if w.mustRotate line.utf8ByteSize then line.toUTF8 else content ++ line.toUTF8
    w.writeLine content line = ({ w with bytesWritten := next.size }, next) := by
  intro next
  have hsize : line.toUTF8.size = line.utf8ByteSize := String.size_toByteArray
  by_cases hrotate : w.mustRotate line.utf8ByteSize = true
  · simp only [LogWriter.writeLine, next, hsize, hrotate, if_true]
  · simp only [LogWriter.writeLine, next, hsize, hrotate, Bool.false_eq_true, if_false, h,
      ByteArray.size_append]

namespace LogFile

def writeLine (l : LogFile) (line : String) : LogFile :=
  let (writer, files) := l.writer.writeLineAt l.files l.path line
  { l with writer, files }

def writeLines (l : LogFile) (lines : List String) : LogFile := lines.foldl writeLine l

/-- Whether the file is emptied before a line. -/
def rotatesFor (l : LogFile) (line : String) : Bool := l.writer.mustRotate line.utf8ByteSize

/-- The file is not emptied by any of these lines. -/
def Quiet (l : LogFile) : List String → Prop
  | [] => True
  | line :: lines => l.rotatesFor line = false ∧ (l.writeLine line).Quiet lines

@[simp] theorem path_writeLines (l : LogFile) (lines : List String) :
    (l.writeLines lines).path = l.path := by
  induction lines generalizing l with
  | nil => rfl
  | cons line lines ih => exact ih (l.writeLine line)

/-! ### One line -/

/-- The file has this content, the writer's count is its length, and it can be written. -/
structure Holds (maxBytes : Nat) (content : ByteArray) (l : LogFile) : Prop where
  maxBytes_eq : l.writer.maxBytes = maxBytes
  bytesWritten_eq : l.writer.bytesWritten = content.size
  written : ∃ before : FileTree, before.write l.path content = .ok l.files

section

variable {maxBytes : Nat} {content : ByteArray} {l : LogFile}

theorem Holds.read_eq (h : l.Holds maxBytes content) : l.files.read l.path = .ok content := by
  obtain ⟨before, hwrite⟩ := h.written
  exact FileTree.read_of_write hwrite

/-- Comparing the writer's count is comparing the length of the file. -/
theorem Holds.rotatesFor_iff (h : l.Holds maxBytes content) (line : String) :
    l.rotatesFor line = true ↔ maxBytes < content.size + line.utf8ByteSize := by
  rw [rotatesFor, LogWriter.mustRotate, h.maxBytes_eq, h.bytesWritten_eq, decide_eq_true_eq]

/-- A line is appended to the content, or replaces it if there is no room. -/
theorem Holds.writeLine (h : l.Holds maxBytes content) (line : String) :
    (l.writeLine line).Holds maxBytes
      (if l.rotatesFor line then line.toUTF8 else content ++ line.toUTF8) := by
  have hread : (l.files.read l.path).toOption.getD ByteArray.empty = content := by
    rw [h.read_eq]
    rfl
  obtain ⟨before, hwrite⟩ := h.written
  let next := if l.rotatesFor line then line.toUTF8 else content ++ line.toUTF8
  have hnext : l.writer.writeLine content line
      = ({ l.writer with bytesWritten := next.size }, next) :=
    LogWriter.writeLine_eq h.bytesWritten_eq line
  -- what could be written once can be written again
  obtain ⟨after, hafter⟩ := FileTree.write_of_write hwrite next
  have hline : l.writeLine line
      = { l with writer := { l.writer with bytesWritten := next.size }, files := after } := by
    simp only [LogFile.writeLine, LogWriter.writeLineAt, hread, hnext, hafter]
  rw [hline]
  exact ⟨h.maxBytes_eq, rfl, l.files, hafter⟩

theorem Holds.writeLine_of_rotates (h : l.Holds maxBytes content) (line : String)
    (hrotate : l.rotatesFor line = true) : (l.writeLine line).Holds maxBytes line.toUTF8 := by
  have hline := h.writeLine line
  rwa [if_pos hrotate] at hline

theorem Holds.writeLine_of_fits (h : l.Holds maxBytes content) (line : String)
    (hfits : l.rotatesFor line = false) :
    (l.writeLine line).Holds maxBytes (content ++ line.toUTF8) := by
  have hline := h.writeLine line
  rwa [hfits] at hline

/-! ### Lines -/

/-- The content of a log file after lines were written: its content before and all of them or, if it
    was emptied, the lines from the latest one on for which it was. -/
inductive Kept (l : LogFile) (content : ByteArray) : List String → ByteArray → Prop where
  | all {lines : List String} (quiet : l.Quiet lines) :
      Kept l content lines (content ++ (String.join lines).toUTF8)
  | recent {older newer : List String} {line : String}
      (rotated : (l.writeLines older).rotatesFor line = true)
      (quiet : (l.writeLines (older ++ [line])).Quiet newer) :
      Kept l content (older ++ line :: newer) (String.join (line :: newer)).toUTF8

theorem Holds.writeLines (h : l.Holds maxBytes content) (lines : List String) :
    ∃ after, (l.writeLines lines).Holds maxBytes after ∧ l.Kept content lines after := by
  induction lines generalizing l content with
  | nil =>
    refine ⟨content, h, ?_⟩
    have hall : l.Kept content [] (content ++ (String.join []).toUTF8) := Kept.all trivial
    simpa using hall
  | cons line lines ih =>
    obtain ⟨after, hafter, hkept⟩ := ih (h.writeLine line)
    refine ⟨after, hafter, ?_⟩
    cases hkept with
    | @recent older newer newest rotated quiet =>
      have hrecent : l.Kept content (line :: older ++ newest :: newer)
          (String.join (newest :: newer)).toUTF8 := Kept.recent rotated quiet
      exact hrecent
    | all quiet =>
      -- the first line is all that can have emptied the file
      by_cases hrotate : l.rotatesFor line = true
      · have hrecent : l.Kept content ([] ++ line :: lines) (String.join (line :: lines)).toUTF8 :=
          Kept.recent hrotate quiet
        rw [if_pos hrotate]
        simpa [String.join_cons] using hrecent
      · have hfits : l.rotatesFor line = false := by simpa using hrotate
        have hall : l.Kept content (line :: lines)
            (content ++ (String.join (line :: lines)).toUTF8) := Kept.all ⟨hfits, quiet⟩
        rw [if_neg hrotate]
        simpa [String.join_cons, ByteArray.append_assoc] using hall

/-- A file exceeds its limit only if its newest line does.  Then it holds this line alone, and is
    emptied before the next one. -/
theorem Holds.size_le (h : l.Holds maxBytes content) (line : String) {after : ByteArray}
    (hafter : (l.writeLine line).Holds maxBytes after) :
    after.size ≤ maxBytes
      ∨ (maxBytes < line.utf8ByteSize ∧ after = line.toUTF8
        ∧ ∀ next, (l.writeLine line).rotatesFor next = true) := by
  by_cases hle : after.size ≤ maxBytes
  · exact Or.inl hle
  have hlong : maxBytes < after.size := Nat.lt_of_not_le hle
  have hread := hafter.read_eq
  by_cases hrotate : l.rotatesFor line = true
  · obtain rfl : after = line.toUTF8 :=
      Except.ok.inj (hread.symm.trans (h.writeLine_of_rotates line hrotate).read_eq)
    refine Or.inr ⟨hlong, rfl, fun next => ?_⟩
    rw [hafter.rotatesFor_iff]
    omega
  · -- what fits is not too long
    have hfits : l.rotatesFor line = false := by simpa using hrotate
    obtain rfl : after = content ++ line.toUTF8 :=
      Except.ok.inj (hread.symm.trans (h.writeLine_of_fits line hfits).read_eq)
    rw [h.rotatesFor_iff] at hrotate
    have hsize : line.toUTF8.size = line.utf8ByteSize := String.size_toByteArray
    rw [ByteArray.size_append, hsize] at hlong
    omega

end

end LogFile

/-- A writer begins with the existing content, unless that is already too long. -/
theorem LogWriter.holds_beginAt {maxBytes : Nat} {files opened : FileTree} {path : String}
    {writer : LogWriter} (h : beginAt maxBytes files path = some (writer, opened)) :
    let previous := (files.read path).toOption.getD ByteArray.empty
    let first := if maxBytes < previous.size then ByteArray.empty else previous
    ({ path, writer, files := opened } : LogFile).Holds maxBytes first := by
  intro previous first
  have hbegin : begin maxBytes (files.read path).toOption
      = ({ maxBytes, bytesWritten := first.size }, first) := by
    by_cases hlong : maxBytes < previous.size
    · simp only [begin, previous, first, hlong, if_true]
      rfl
    · simp only [begin, previous, first, hlong, if_false]
  simp only [beginAt, hbegin, Option.map_eq_some_iff] at h
  obtain ⟨written, hwritten, heq⟩ := h
  obtain ⟨rfl, rfl⟩ := Prod.mk.inj heq
  refine ⟨rfl, rfl, files, ?_⟩
  show files.write path first = .ok written
  cases hwrite : files.write path first with
  | ok t =>
    rw [hwrite] at hwritten
    exact congrArg Except.ok (Option.some.inj hwritten)
  | error err =>
    rw [hwrite] at hwritten
    cases hwritten

/-- The notices of the debug log are lines that are written to its file. -/
theorem DebugLog.writeAll_eq (l : LogFile) (seconds : Nat) (notices : List Notice) :
    let after := l.writeLines (notices.map fun n => line seconds n.text)
    ({ path := l.path, writer := some l.writer } : DebugLog).writeAll l.files seconds notices
      = ({ path := l.path, writer := some after.writer }, after.files) := by
  induction notices generalizing l with
  | nil => rfl
  | cons n notices ih => exact ih (l.writeLine (line seconds n.text))

/-- **A log file keeps its newest lines.** A writer begins with a file that may have a content,
    which is dropped if it is longer than the limit, and lines are written to it.  The file can then
    be read, and its writer knows its length.  If it was never emptied, it holds its first content
    and all lines; otherwise it holds the lines from the latest one on before which it was emptied.
    It is emptied before a line exactly if that line would make it longer than the limit.  It is
    longer than the limit only if the newest line is; then it holds that line alone, and is emptied
    before the next one.  Lengths are those of the UTF-8 bytes.  The notices of the debug log are
    such lines. -/
theorem LogFile.keeps_newest_lines {maxBytes : Nat} {files opened : FileTree} {path : String}
    {writer : LogWriter} (h : LogWriter.beginAt maxBytes files path = some (writer, opened))
    (lines : List String) :
    let previous := (files.read path).toOption.getD ByteArray.empty
    let first := if maxBytes < previous.size then ByteArray.empty else previous
    let log : LogFile := { path, writer, files := opened }
    let after := log.writeLines lines
    (∃ content, after.files.read path = .ok content
        ∧ after.writer.bytesWritten = content.size
        ∧ log.Kept first lines content
        ∧ (∀ next, after.rotatesFor next = true ↔ maxBytes < content.size + next.utf8ByteSize)
        ∧ ∀ older newest, lines = older ++ [newest] →
            content.size ≤ maxBytes
              ∨ (maxBytes < newest.utf8ByteSize ∧ content = newest.toUTF8
                ∧ ∀ next, after.rotatesFor next = true))
      ∧ ∀ seconds notices, lines = notices.map (fun n => DebugLog.line seconds n.text) →
          ({ path, writer := some writer } : DebugLog).writeAll opened seconds notices
            = ({ path, writer := some after.writer }, after.files) := by
  intro previous first log after
  have hfirst : log.Holds maxBytes first := LogWriter.holds_beginAt h
  obtain ⟨content, hafter, hkept⟩ := hfirst.writeLines lines
  have hread : after.files.read path = .ok content := by
    have hpath : after.path = path := log.path_writeLines lines
    rw [← hpath]
    exact hafter.read_eq
  refine ⟨⟨content, hread, hafter.bytesWritten_eq, hkept, hafter.rotatesFor_iff, ?_⟩, ?_⟩
  · intro older newest heq
    obtain ⟨before, hbefore, -⟩ := hfirst.writeLines older
    have hsplit : after = (log.writeLines older).writeLine newest := by
      simp only [after, heq, writeLines, List.foldl_append, List.foldl_cons, List.foldl_nil]
    have hnewest : ((log.writeLines older).writeLine newest).Holds maxBytes content :=
      hsplit ▸ hafter
    rw [hsplit]
    exact hbefore.size_le newest hnewest
  · intro seconds notices heq
    rw [show after = log.writeLines (notices.map fun n => DebugLog.line seconds n.text) from
      congrArg log.writeLines heq]
    exact DebugLog.writeAll_eq log seconds notices

/-- The first line fills the file up to the limit, the second one does not fit, and the third one is
    too long. -/
theorem LogFile.keeps_newest_lines_of_long_line :
    ∃ (files opened : FileTree) (writer : LogWriter),
      files.read "a" = .ok "ab".toUTF8
        ∧ LogWriter.beginAt 5 files "a" = some (writer, opened)
        ∧ let after := ({ path := "a", writer, files := opened } : LogFile).writeLines
            ["é\n", "x\n", "longer\n"]
          after.files.read "a" = .ok "longer\n".toUTF8
            ∧ after.writer.bytesWritten = 7
            ∧ after.rotatesFor "" = true := by
  obtain ⟨files, hfiles⟩ := FileTree.exists_write "ab".toUTF8
  have hread := FileTree.read_of_write hfiles
  obtain ⟨opened, hopened⟩ := FileTree.write_of_write hfiles "ab".toUTF8
  have hbegin : LogWriter.beginAt 5 files "a"
      = some ({ maxBytes := 5, bytesWritten := 2 }, opened) := by
    have hshort : LogWriter.begin 5 (some "ab".toUTF8)
        = ({ maxBytes := 5, bytesWritten := 2 }, "ab".toUTF8) := rfl
    simp only [LogWriter.beginAt, hread, Except.toOption, hshort, hopened, Option.map_some]
  refine ⟨files, opened, _, hread, hbegin, ?_⟩
  have hfirst := LogWriter.holds_beginAt hbegin
  simp only [hread, Except.toOption, Option.getD_some] at hfirst
  have hfull := hfirst.writeLine_of_fits "é\n" rfl
  have hroom := hfull.writeLine_of_rotates "x\n" ((hfull.rotatesFor_iff _).mpr (by decide))
  have hlong := hroom.writeLine_of_rotates "longer\n" ((hroom.rotatesFor_iff _).mpr (by decide))
  obtain ⟨⟨content, hcontent, hcount, -, -, hlast⟩, -⟩ :=
    keeps_newest_lines hbegin ["é\n", "x\n", "longer\n"]
  obtain rfl : content = "longer\n".toUTF8 :=
    Except.ok.inj (hcontent.symm.trans hlong.read_eq)
  obtain hfits | ⟨-, -, hnext⟩ := hlast ["é\n", "x\n"] "longer\n" rfl
  · exact absurd hfits (by decide)
  · exact ⟨hcontent, hcount, hnext ""⟩

end Loopback
