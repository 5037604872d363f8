import Loopback.Proofs.Config.Faults
import Loopback.Proofs.Files.Canonical

/-! # Which configurations are accepted

    A configuration is accepted exactly if it is sound: its numbers are within bounds, its choice of
    devices is possible and, unless it only asks for a listing, the files it names exist.  It is
    returned with the canonical path of its input file, and is accepted again in this form.

    * `FileSystem.Idempotent` says that canonical paths are canonical paths of themselves; in a file
      tree they are (`FileTree.idempotent_fileSystem`).
    * `Config.Sound` states the requirements without the checks.
    * `validateIn_eq_ok_iff` says what is accepted and what is returned, and is the only lemma that
      opens the checks.
-/

namespace Loopback

/-- A canonical path is its own canonical path. -/
def FileSystem.Idempotent (fs : FileSystem) : Prop :=
  ∀ path place, fs.locate path = .ok place → fs.locate (fs.pathOf place) = .ok place

/-- A file tree has idempotent canonical paths if the path of its working directory leads there. -/
theorem FileTree.idempotent_fileSystem {t : FileTree} (hstart : t.Stands t.workingDirectory) :
    t.fileSystem.Idempotent :=
  fun _ _ hlocate => locate_pathOf hstart hlocate

namespace Config

/-! ### Sound configurations -/

/-- The files that a configuration names exist: the input path leads to a regular file, and the
    export directory, if recordings are exported, is a directory or does not exist yet. -/
structure FilesSound (c : Config) (fs : FileSystem) : Prop where
  input : ∃ path place, c.inputFile = some path ∧ fs.locate path = .ok place
    ∧ fs.isRegular place = true
  exports : c.noExport = false →
    fs.pathExists c.exportDir = false ∨ fs.isDirectory c.exportDir = true

/-- The requirements on a configuration.  A listing needs no files. -/
structure Sound (c : Config) (fs : FileSystem) : Prop where
  numbers : c.NumbersSound
  devices : c.DevicesSound
  files : c.listDevices = false → c.FilesSound fs

section

variable {c result : Config} {fs : FileSystem}

/-- The input path leads to one place only. -/
theorem FilesSound.isRegular {path : String} {place : fs.Place} (h : c.FilesSound fs)
    (hpath : c.inputFile = some path) (hplace : fs.locate path = .ok place) :
    fs.isRegular place = true := by
  obtain ⟨path', place', hpath', hplace', hregular⟩ := h.input
  obtain rfl : path = path' := Option.some.inj (hpath.symm.trans hpath')
  obtain rfl : place = place' := Except.ok.inj (hplace.symm.trans hplace')
  exact hregular

theorem fault_eq_none_iff :
    (c.numberFault? <|> c.deviceFault?) = none ↔ c.NumbersSound ∧ c.DevicesSound := by
  rw [← numberFault?_eq_none_iff, ← deviceFault?_eq_none_iff]
  simp

theorem exportDirBlocked_eq_false_iff :
    c.exportDirBlocked fs = false
      ↔ (c.noExport = false →
          fs.pathExists c.exportDir = false ∨ fs.isDirectory c.exportDir = true) := by
  rw [exportDirBlocked]
  cases c.noExport <;> cases fs.pathExists c.exportDir <;> cases fs.isDirectory c.exportDir <;> simp

theorem locateInput_eq_ok_iff {canonical : String} :
    c.locateInput fs = .ok canonical
      ↔ ∃ path place, c.inputFile = some path ∧ fs.locate path = .ok place
          ∧ fs.isRegular place = true ∧ fs.pathOf place = canonical := by
  constructor
  · intro h
    unfold locateInput at h
    split at h
    · cases h
    · next path hpath =>
      split at h
      · cases h
      · next place hplace =>
        dsimp only at h
        split at h
        · next hregular => exact ⟨path, place, hpath, hplace, hregular, Except.ok.inj h⟩
        · cases h
  · rintro ⟨path, place, hpath, hplace, hregular, rfl⟩
    simp only [locateInput, hpath, hplace, hregular, if_true]

/-- A sound configuration is accepted: unchanged if it asks for a listing, and otherwise with the
    canonical path of its input file.  No other configuration is accepted. -/
theorem validateIn_eq_ok_iff :
    c.validateIn fs = (result, .ok ())
      ↔ c.Sound fs
        ∧ ((c.listDevices = true ∧ result = c)
          ∨ (c.listDevices = false ∧ ∃ path place, c.inputFile = some path
            ∧ fs.locate path = .ok place
            ∧ result = { c with inputFile := some (fs.pathOf place) })) := by
  constructor
  · intro h
    unfold validateIn at h
    split at h
    · cases (Prod.mk.inj h).2
    · next hfault =>
      obtain ⟨hnumbers, hdevices⟩ := fault_eq_none_iff.mp hfault
      split at h
      · next hlist =>
        have hfiles : c.listDevices = false → c.FilesSound fs := by
          intro hrun
          rw [hlist] at hrun
          cases hrun
        exact ⟨⟨hnumbers, hdevices, hfiles⟩, .inl ⟨hlist, (Prod.mk.inj h).1.symm⟩⟩
      · next hlist =>
        split at h
        · cases (Prod.mk.inj h).2
        · next canonical hcanonical =>
          obtain ⟨path, place, hpath, hplace, hregular, rfl⟩ :=
            locateInput_eq_ok_iff.mp hcanonical
          dsimp only at h
          split at h
          · cases (Prod.mk.inj h).2
          · next hfree =>
            have hexports := exportDirBlocked_eq_false_iff.mp (Bool.eq_false_iff.mpr hfree)
            exact ⟨⟨hnumbers, hdevices,
                fun _ => ⟨⟨path, place, hpath, hplace, hregular⟩, hexports⟩⟩,
              .inr ⟨Bool.eq_false_iff.mpr hlist, path, place, hpath, hplace,
                (Prod.mk.inj h).1.symm⟩⟩
  · rintro ⟨hsound, hresult⟩
    have hfault : (c.numberFault? <|> c.deviceFault?) = none :=
      fault_eq_none_iff.mpr ⟨hsound.numbers, hsound.devices⟩
    rcases hresult with ⟨hlist, rfl⟩ | ⟨hrun, path, place, hpath, hplace, rfl⟩
    · simp only [validateIn, hfault, hlist, if_true]
    · have hfiles := hsound.files hrun
      have hcanonical : c.locateInput fs = .ok (fs.pathOf place) := locateInput_eq_ok_iff.mpr
        ⟨path, place, hpath, hplace, hfiles.isRegular hpath hplace, rfl⟩
      have hfree : c.exportDirBlocked fs = false :=
        exportDirBlocked_eq_false_iff.mpr hfiles.exports
      rw [validateIn, hfault]
      dsimp only
      rw [if_neg (Bool.eq_false_iff.mp hrun), hcanonical]
      exact if_neg (Bool.eq_false_iff.mp hfree)

/-- Acceptance leaves the numbers as they are. -/
theorem numbersSound_of_validateIn (h : c.validateIn fs = (result, .ok ())) :
    result.NumbersSound := by
  obtain ⟨hsound, hresult⟩ := validateIn_eq_ok_iff.mp h
  obtain ⟨hrecordings, hduration, hinterval, hdecay⟩ := hsound.numbers
  rcases hresult with ⟨-, rfl⟩ | ⟨-, path, place, -, -, rfl⟩
  · exact ⟨hrecordings, hduration, hinterval, hdecay⟩
  · exact ⟨hrecordings, hduration, hinterval, hdecay⟩

/-- An accepted configuration is accepted again without change. -/
theorem validateIn_validateIn (hidempotent : fs.Idempotent)
    (h : c.validateIn fs = (result, .ok ())) : result.validateIn fs = (result, .ok ()) := by
  obtain ⟨hsound, hresult⟩ := validateIn_eq_ok_iff.mp h
  rcases hresult with ⟨hlist, rfl⟩ | ⟨hrun, path, place, hpath, hplace, rfl⟩
  · exact h
  · have hfiles := hsound.files hrun
    have hregular := hfiles.isRegular hpath hplace
    have hagain : fs.locate (fs.pathOf place) = .ok place := hidempotent path place hplace
    have hnumbers := numbersSound_of_validateIn h
    -- the devices are those of before
    have hdevices : ({ c with inputFile := some (fs.pathOf place) } : Config).DevicesSound :=
      ⟨hsound.devices.input, hsound.devices.output, hsound.devices.offline⟩
    exact validateIn_eq_ok_iff.mpr
      ⟨⟨hnumbers, hdevices, fun _ => ⟨⟨_, place, rfl, hagain, hregular⟩, hfiles.exports⟩⟩,
        .inr ⟨hrun, _, place, rfl, hagain, rfl⟩⟩

end

/-- **The sound configurations are accepted, and no others.** For any file system, an accepted
    configuration is returned unchanged, except that the path of its input file is made canonical if
    it asks for a run.  If canonical paths are canonical paths of themselves, it is accepted again
    without change.  Validation against a file tree is a special case, and the condition holds for a
    file tree if the path of its working directory leads there. -/
theorem accepts_exactly_sound (c : Config) :
    (∀ fs : FileSystem,
      let accepted := (c.validateIn fs).1
      ((c.validateIn fs).2 = .ok () ↔ c.Sound fs)
        ∧ ((c.validateIn fs).2 = .ok () →
          (c.listDevices = true → accepted = c)
            ∧ (c.listDevices = false → ∃ path place, c.inputFile = some path
              ∧ fs.locate path = .ok place
              ∧ accepted = { c with inputFile := some (fs.pathOf place) })
            ∧ (fs.Idempotent → accepted.validateIn fs = (accepted, .ok ()))))
      ∧ ∀ t : FileTree, c.validate t = c.validateIn t.fileSystem
        ∧ (t.Stands t.workingDirectory → t.fileSystem.Idempotent) := by
  refine ⟨?_, fun t => ⟨rfl, t.idempotent_fileSystem⟩⟩
  intro fs accepted
  have hwhole : (c.validateIn fs).2 = .ok () → c.validateIn fs = (accepted, .ok ()) := by
    intro h
    rw [← h]
  constructor
  · constructor
    · intro h
      exact (validateIn_eq_ok_iff.mp (hwhole h)).1
    · intro hsound
      cases hlist : c.listDevices with
      | true =>
        have hsame : c.validateIn fs = (c, .ok ()) :=
          validateIn_eq_ok_iff.mpr ⟨hsound, .inl ⟨hlist, rfl⟩⟩
        rw [hsame]
      | false =>
        obtain ⟨path, place, hpath, hplace, -⟩ := (hsound.files hlist).input
        have hcanonical := validateIn_eq_ok_iff.mpr
          ⟨hsound, .inr ⟨hlist, path, place, hpath, hplace, rfl⟩⟩
        rw [hcanonical]
  · intro h
    obtain ⟨-, hresult⟩ := validateIn_eq_ok_iff.mp (hwhole h)
    refine ⟨?_, ?_, fun hidempotent => validateIn_validateIn hidempotent (hwhole h)⟩
    · intro hlist
      rcases hresult with ⟨-, hsame⟩ | ⟨hrun, -⟩
      · exact hsame
      · rw [hlist] at hrun
        cases hrun
    · intro hrun
      rcases hresult with ⟨hlist, -⟩ | ⟨-, hcanonical⟩
      · rw [hlist] at hrun
        cases hrun
      · exact hcanonical

/-- A file in a directory, which is the working directory. -/
def roomTree : FileTree :=
  { nodes := [(["room"], .directory), (["room", "clip"], .file ByteArray.empty)]
    workingDirectory := ["room"] }

/-- The input path leaves the working directory and returns to it.  The run is as long as its
    recordings can be, with the shortest time between reports. -/
def wanderingRun : Config :=
  { inputFile := some "../room/./clip"
    inputDevice := some "Buds"
    durationSecs := 3600
    maxRecordSeconds := 3600
    statusIntervalMs := 50
    peakDecay := .half }

/-- The path is made canonical and then stays the same. -/
theorem accepts_exactly_sound_of_wandering_path :
    let straight := { wanderingRun with inputFile := some "/room/clip" }
    roomTree.Stands ["room"]
      ∧ wanderingRun.Sound roomTree.fileSystem
      ∧ wanderingRun.validate roomTree = (straight, .ok ())
      ∧ straight.validate roomTree = (straight, .ok ()) := by
  intro straight
  have hstands : roomTree.Stands ["room"] :=
    FileTree.Stands.root.down ⟨by decide, by decide⟩ rfl
  have hpath : roomTree.locate "../room/./clip" = .ok ["room", "clip"] := by
    rw [FileTree.locate, FileTree.split_of_relative _ (by decide) (by decide) (by decide)]
    rfl
  have hexports : roomTree.isDirectory "." = true := by
    rw [FileTree.isDirectory, FileTree.resolve, FileTree.segments,
      FileTree.split_of_relative _ (by decide) (by decide) (by decide)]
    rfl
  have hsound : wanderingRun.Sound roomTree.fileSystem :=
    ⟨(numberFault?_eq_none_iff _).mp (by decide), (deviceFault?_eq_none_iff _).mp (by decide),
      fun _ => ⟨⟨_, _, rfl, hpath, by decide⟩, fun _ => .inr hexports⟩⟩
  obtain ⟨haccepts, htrees⟩ := accepts_exactly_sound wanderingRun
  obtain ⟨hvalidate, hidempotent⟩ := htrees roomTree
  obtain ⟨hiff, hcomes⟩ := haccepts roomTree.fileSystem
  have hok := hiff.mpr hsound
  obtain ⟨-, hrun, hagain⟩ := hcomes hok
  have hstraight : (wanderingRun.validateIn roomTree.fileSystem).1 = straight := by
    obtain ⟨path, place, hinput, hplace, hcanonical⟩ := hrun rfl
    obtain rfl := Option.some.inj hinput
    obtain rfl := Except.ok.inj (hpath.symm.trans hplace)
    exact hcanonical
  have hfirst : wanderingRun.validate roomTree = (straight, .ok ()) := by
    rw [hvalidate, ← hstraight, ← hok]
  have hsecond := hagain (hidempotent hstands)
  rw [hstraight] at hsecond
  exact ⟨hstands, hsound, hfirst, hsecond⟩

end Config

end Loopback
