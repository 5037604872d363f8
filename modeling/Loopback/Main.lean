import Loopback.Program
import Std.Time.DateTime.Timestamp

/-! # The command line

    The program run on the files, variables and clock of the machine.  The files that a run may look
    at are read before it, and what it leaves changed is written back after it.
-/

namespace Loopback.Machine

/-- The environment variables that a run may ask for. -/
def variableNames : List String :=
  [Config.logsVariable, Config.noLogsVariable, testDevicesVariable, traceVariable]

/-- What an absolute path leads to. -/
def look (path : String) : IO (Option FileNode) := do
  try
    let _ ← IO.FS.realPath (path ++ "/.")
    return some .directory
  catch _ =>
    try
      return some (.file (← IO.FS.readBinFile path))
    catch _ => return none

/-- Copies into the tree what stands along a path. -/
def takeOver (t : FileTree) (path : String) : IO FileTree := do
  let (start, segments) := (t.segments path).toOption.getD ([], [])
  let (t, _) ← segments.foldlM
    (fun ((t, place) : FileTree × Place) segment => do
      if segment.isEmpty || segment == "." then return (t, place)
      else if segment == ".." then return (t, place.dropLast)
      else
        let place := place ++ [segment]
        match ← look (FileTree.pathOf place) with
        | some node => return (t.put place node, place)
        | none => return (t, place))
    (t, start)
  return t

/-- The files that a run on a command line may look at. -/
def snapshot (env : String → Option String) (temporary : String) (arguments : List String) :
    IO FileTree := do
  let here := toString (← IO.currentDir)
  let files ← takeOver {} here
  let files := { files with workingDirectory := (here.splitOn "/").filter (!·.isEmpty) }
  let config := (Config.ofArguments env arguments).toOption.getD {}
  let paths :=
    config.inputFile.toList
      ++ [config.exportDir, debugLogPath temporary, crashLogPath temporary,
        tracePath (env traceVariable) temporary]
  paths.foldlM takeOver files

/-- Whether a place holds the same file as before, or is a directory as before. -/
def unchanged (before : FileTree) (place : Place) (node : FileNode) : Bool :=
  match before.node? place, node with
  | some .directory, .directory => true
  | some (.file old), .file new => old.data == new.data
  | _, _ => false

/-- Writes back what a run has changed, directories first. -/
def writeBack (before after : FileTree) : IO Unit := do
  let changed := after.nodes.filter fun (place, node) => !unchanged before place node
  for (place, node) in changed do
    if node matches .directory then IO.FS.createDirAll (FileTree.pathOf place)
  for (place, node) in changed do
    if let .file content := node then IO.FS.writeBinFile (FileTree.pathOf place) content

/-- Runs the program on the machine and gives its status code. -/
def run (arguments : List String) : IO UInt32 := do
  let values ← variableNames.mapM fun name => do return (name, ← IO.getEnv name)
  let env (name : String) : Option String := (values.lookup name).join
  let temporary := (← IO.getEnv "TMPDIR").getD "/tmp"
  let files ← snapshot env temporary arguments
  let now ← Std.Time.Timestamp.now
  let execution :=
    execute { files, env, temporary, now := now.toNanosecondsSinceUnixEpoch.val.toNat } arguments
  writeBack files execution.files
  IO.print execution.stdout
  IO.eprint execution.stderr
  match execution.ending with
  | .exit code => return code.toUInt32
  | .crash =>
    IO.eprintln "the run broke off"
    return 101

end Loopback.Machine

def main (arguments : List String) : IO UInt32 := Loopback.Machine.run arguments
