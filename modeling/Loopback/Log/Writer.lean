import Loopback.Files
import Loopback.Log.Notice

/-! # The debug log and the crash log

    * A `LogWriter` appends lines to a file of limited size.  Before a line that would make the file
      too long, the file is emptied; so a file never holds part of a line, and only a line that is
      too long by itself makes it longer than the limit.
    * The `DebugLog` is a writer that can be switched off.
    * The crash log is emptied by the same rule, going by the length of the file itself.
-/

namespace Loopback

/-- Appends lines to a file of limited size.  Lengths are counted in bytes. -/
structure LogWriter where
  /-- The most bytes the file may have. -/
  maxBytes : Nat
  /-- How long the file is. -/
  bytesWritten : Nat
deriving DecidableEq, Repr, Inhabited

namespace LogWriter

/-- Begins to write to a file, and gives its content at the beginning.  Existing content is kept
    unless it is already too long. -/
def begin (maxBytes : Nat) (existing : Option ByteArray) : LogWriter × ByteArray :=
  let content := existing.getD ByteArray.empty
  if maxBytes < content.size then ({ maxBytes, bytesWritten := 0 }, ByteArray.empty)
  else ({ maxBytes, bytesWritten := content.size }, content)

/-- Whether the next line does not fit. -/
def mustRotate (w : LogWriter) (nextBytes : Nat) : Bool := w.maxBytes < w.bytesWritten + nextBytes

/-- Writes a line as it is, after emptying the file if it must be. -/
def writeLine (w : LogWriter) (content : ByteArray) (line : String) : LogWriter × ByteArray :=
  let bytes := line.toUTF8
  if w.mustRotate bytes.size then ({ w with bytesWritten := bytes.size }, bytes)
  else ({ w with bytesWritten := w.bytesWritten + bytes.size }, content ++ bytes)

/-- Begins to write to the file at a path, if it can be written. -/
def beginAt (maxBytes : Nat) (files : FileTree) (path : String) : Option (LogWriter × FileTree) :=
  let (writer, content) := begin maxBytes (files.read path).toOption
  (files.write path content).toOption.map (writer, ·)

/-- Writes a line to the file at a path.  If that fails, nothing changes. -/
def writeLineAt (w : LogWriter) (files : FileTree) (path line : String) : LogWriter × FileTree :=
  let content := (files.read path).toOption.getD ByteArray.empty
  let (writer, content) := w.writeLine content line
  match files.write path content with
  | .ok files => (writer, files)
  -- a log that cannot be written is no reason to stop
  | .error _ => (w, files)

end LogWriter

/-! ### The debug log -/

def debugLogMaxBytes : Nat := 5 * 1024 * 1024

def debugLogPath (temporary : String) : String := temporary ++ "/hfp_loopback.log"

structure DebugLog where
  path : String
  /-- Absent while logging is off. -/
  writer : Option LogWriter := none
deriving Inhabited

namespace DebugLog

def configure (enabled : Bool) (files : FileTree) (temporary : String) : DebugLog × FileTree :=
  let path := debugLogPath temporary
  if enabled then
    match LogWriter.beginAt debugLogMaxBytes files path with
    | some (writer, files) => ({ path, writer := some writer }, files)
    | none => ({ path }, files)
  else ({ path }, files)

def line (seconds : Nat) (message : String) : String := s!"[{seconds}] {message}\n"

def write (log : DebugLog) (files : FileTree) (seconds : Nat) (message : String) :
    DebugLog × FileTree :=
  match log.writer with
  | none => (log, files)
  | some writer =>
    let (writer, files) := writer.writeLineAt files log.path (line seconds message)
    ({ log with writer := some writer }, files)

def writeAll (log : DebugLog) (files : FileTree) (seconds : Nat) (notices : List Notice) :
    DebugLog × FileTree :=
  notices.foldl (fun (log, files) n => log.write files seconds n.text) (log, files)

end DebugLog

/-! ### The crash log -/

def crashLogMaxBytes : Nat := 256 * 1024

def crashLogPath (temporary : String) : String := temporary ++ "/hfp_loopback_crash.log"

def programVersion : String := "0.1.0"

/-- The line of a crash.  A crash without a message gets a fixed one. -/
def crashLine (seconds : Nat) (location : String) (payload : Option String) : String :=
  let payload := payload.getD "non-string panic payload"
  s!"[{seconds}] panic at {location}: {payload} (v{programVersion})\n"

def writeCrash (files : FileTree) (temporary line : String) : FileTree :=
  let path := crashLogPath temporary
  let content := (files.read path).toOption.getD ByteArray.empty
  let bytes := line.toUTF8
  let content := if crashLogMaxBytes < content.size + bytes.size then bytes else content ++ bytes
  (files.write path content).toOption.getD files

end Loopback
