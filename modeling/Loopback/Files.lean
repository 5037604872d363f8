/-! # Files

    A file tree holds directories and files by absolute place, and a working directory from which
    relative paths start.  Paths are walked segment by segment: an empty segment or `.` stays, `..`
    goes up, and every step needs a directory to start from.

    * `FileTree.locate` finds the place a path leads to, name by name, so the path may be of any
      length.
    * `FileTree.resolve` does the same for a path that is asked for as a whole, which has a limit.
    * `FileTree.read`, `FileTree.write`, `FileTree.append` and `FileTree.createDirs` are what
      programs do with paths.  Creating directories keeps those it has created even if it fails in
      the end.
    * `FileSystem` is what has to be known of files to check a configuration; links and special
      files may be among them.  `FileTree.fileSystem` is the case of a file tree.
-/

namespace Loopback

/-- Why a path cannot be used. -/
inductive FileError where
  | notFound
  | alreadyExists
  | notADirectory
  | isADirectory
  | nameTooLong
  /-- The path has a NUL character in it. -/
  | nulInName
deriving DecidableEq, Repr, Inhabited

namespace FileError

def message : FileError → String
  | notFound => "No such file or directory (os error 2)"
  | alreadyExists => "File exists (os error 17)"
  | notADirectory => "Not a directory (os error 20)"
  | isADirectory => "Is a directory (os error 21)"
  | nameTooLong => "File name too long (os error 36)"
  | nulInName => "file name contained an unexpected NUL byte"

end FileError

/-- What a place holds. -/
inductive FileNode where
  | file (content : ByteArray)
  | directory
deriving Inhabited

/-- A place: the names from the root down. -/
abbrev Place := List String

structure FileTree where
  /-- The nodes by their place; the root is a directory without being listed. -/
  nodes : List (Place × FileNode) := []
  /-- Where relative paths start. -/
  workingDirectory : Place := []
deriving Inhabited

namespace FileTree

/-! ### Places -/

def node? (t : FileTree) (place : Place) : Option FileNode :=
  if place.isEmpty then some .directory else t.nodes.lookup place

def isDirectoryAt (t : FileTree) (place : Place) : Bool :=
  match t.node? place with
  | some .directory => true
  | _ => false

/-- Puts a node at a place and removes the one that was there. -/
def put (t : FileTree) (place : Place) (node : FileNode) : FileTree :=
  { t with nodes := (place, node) :: t.nodes.filter (·.1 != place) }

/-- Makes a place and everything above it directories. -/
def putDirectories (t : FileTree) (place : Place) : FileTree :=
  (List.range place.length).foldl
    (fun t n =>
      let above := place.take (n + 1)
      if t.isDirectoryAt above then t else t.put above .directory)
    t

/-- The absolute path of a place. -/
def pathOf (place : Place) : String := "/" ++ "/".intercalate place

/-! ### Paths -/

/-- A path inside a directory; an absolute path stays as it is. -/
def join (dir name : String) : String :=
  if name.startsWith "/" then name
  else if dir.isEmpty || dir.endsWith "/" then dir ++ name
  else dir ++ "/" ++ name

/-- The longest name a directory can list, in bytes. -/
def maxNameBytes : Nat := 255

/-- The longest path that can be asked for as a whole, in bytes. -/
def maxPathBytes : Nat := 4095

/-- Follows one segment of a path. -/
def step (t : FileTree) (place : Place) (segment : String) : Except FileError Place :=
  if !t.isDirectoryAt place then .error .notADirectory
  else if segment.isEmpty || segment == "." then .ok place
  else if segment == ".." then .ok place.dropLast
  else if maxNameBytes < segment.utf8ByteSize then .error .nameTooLong
  else
    let below := place ++ [segment]
    if (t.node? below).isSome then .ok below else .error .notFound

def walk (t : FileTree) (place : Place) (segments : List String) : Except FileError Place :=
  segments.foldlM t.step place

/-- The place where a path starts, and its segments, however many there are. -/
def split (t : FileTree) (path : String) : Except FileError (Place × List String) :=
  if path.contains '\x00' then .error .nulInName
  else if path.isEmpty then .error .notFound
  else if path.startsWith "/" then .ok ([], (path.drop 1).toString.splitOn "/")
  else .ok (t.workingDirectory, path.splitOn "/")

/-- The place a path leads to, found segment by segment. -/
def locate (t : FileTree) (path : String) : Except FileError Place := do
  let (start, segments) ← t.split path
  t.walk start segments

/-- As `split`, for a path that is passed as a whole: it has a length limit. -/
def segments (t : FileTree) (path : String) : Except FileError (Place × List String) := do
  let parts ← t.split path
  if maxPathBytes < path.utf8ByteSize then .error .nameTooLong else .ok parts

/-- As `locate`, for a path that is passed as a whole. -/
def resolve (t : FileTree) (path : String) : Except FileError Place := do
  let (start, segments) ← t.segments path
  t.walk start segments

def pathExists (t : FileTree) (path : String) : Bool := (t.resolve path).toBool

def isDirectory (t : FileTree) (path : String) : Bool :=
  match t.resolve path with
  | .ok place => t.isDirectoryAt place
  | .error _ => false

/-! ### Reading and writing -/

def read (t : FileTree) (path : String) : Except FileError ByteArray := do
  let place ← t.resolve path
  match t.node? place with
  | some (.file content) => .ok content
  | some .directory => .error .isADirectory
  | none => .error .notFound

/-- Writes a file, creating or replacing it. -/
def write (t : FileTree) (path : String) (content : ByteArray) : Except FileError FileTree := do
  let (start, segments) ← t.segments path
  let named := segments.reverse.dropWhile (·.isEmpty)
  match named with
  | [] => .error .isADirectory
  | name :: above =>
    let dir ← t.walk start above.reverse
    if !t.isDirectoryAt dir then .error .notADirectory
    else if name == "." || name == ".." then .error .isADirectory
    -- a slash at the end asks for a directory, whatever the name is
    else if named.length < segments.length then .error .isADirectory
    else if maxNameBytes < name.utf8ByteSize then .error .nameTooLong
    else if t.isDirectoryAt (dir ++ [name]) then .error .isADirectory
    else .ok (t.put (dir ++ [name]) (.file content))

/-- Appends to a file, and creates it if there is none. -/
def append (t : FileTree) (path : String) (content : ByteArray) : Except FileError FileTree :=
  t.write path ((t.read path).toOption.getD ByteArray.empty ++ content)

def createDir (t : FileTree) (start : Place) (segments : List String) :
    Except FileError FileTree := do
  match segments.reverse with
  | [] => .error .alreadyExists
  | name :: above =>
    let dir ← t.walk start above.reverse
    if !t.isDirectoryAt dir then .error .notADirectory
    else if name == "." || name == ".." then .error .alreadyExists
    else if maxNameBytes < name.utf8ByteSize then .error .nameTooLong
    else if (t.node? (dir ++ [name])).isSome then .error .alreadyExists
    else .ok (t.put (dir ++ [name]) .directory)

/-- An error while creating a directory is ignored if the directory is already there. -/
def tolerate (t : FileTree) (start : Place) (segments : List String) (err : FileError) :
    Except FileError Unit :=
  match t.walk start segments with
  | .ok place => if t.isDirectoryAt place then .ok () else .error err
  | .error _ => .error err

/-- Creates a directory.  If a directory above it is missing, `above` is called to create that
    first. -/
def createDirWith (t : FileTree) (start : Place) (segments : List String)
    (above : FileTree → FileTree × Except FileError Unit) : FileTree × Except FileError Unit :=
  match t.createDir start segments with
  | .ok t => (t, .ok ())
  | .error .notFound =>
    -- a directory in between is missing
    match above t with
    | (t, .error err) => (t, .error err)
    | (t, .ok ()) =>
      match t.createDir start segments with
      | .ok t => (t, .ok ())
      | .error err => (t, t.tolerate start segments err)
  | .error err => (t, t.tolerate start segments err)

/-- Creates a directory and everything above it; the names come innermost first. -/
def createDirsReversed (t : FileTree) (start : Place) :
    List String → FileTree × Except FileError Unit
  | [] => (t, .ok ())
  | name :: above =>
    t.createDirWith start (name :: above).reverse fun t => t.createDirsReversed start above

/-- Creates the directory of a path and everything above it.  The directories it has created stay
    even if it fails later. -/
def createDirs (t : FileTree) (path : String) : FileTree × Except FileError Unit :=
  if path.isEmpty then (t, .ok ())
  else
    match t.segments path with
    | .error err => (t, .error err)
    | .ok (start, segments) =>
      let named := segments.filter (!·.isEmpty)
      let names := named.filter (· != ".")
      if names.isEmpty then (t, .ok ())
      else
        t.createDirWith start named fun t =>
          t.createDirsReversed start names.reverse.tail

end FileTree

/-- A file system, as far as configurations depend on it. -/
structure FileSystem where
  Place : Type
  /-- The place that a path leads to. -/
  locate : String → Except FileError Place
  /-- The canonical path of a place. -/
  pathOf : Place → String
  /-- Whether a regular file stands at a place. -/
  isRegular : Place → Bool
  /-- Whether a path leads anywhere. -/
  pathExists : String → Bool
  /-- Whether a path leads to a directory. -/
  isDirectory : String → Bool

/-- In a file tree every node other than a directory is a regular file. -/
def FileTree.fileSystem (t : FileTree) : FileSystem where
  Place := Loopback.Place
  locate := t.locate
  pathOf := FileTree.pathOf
  isRegular place := !t.isDirectoryAt place
  pathExists := t.pathExists
  isDirectory := t.isDirectory

end Loopback
