import HubProxy.Files.Error
import HubProxy.Log

/-!
# File systems

What a run asks of a file system. A run is written once for every file system: one that lives in
memory, which tests and proofs use, and the one of the machine. A file system also keeps the log
file, since that is open while a run changes other files and perhaps the log file itself.
-/

namespace HubProxy

inductive FileKind where
  | file
  | directory
  deriving DecidableEq, Repr

inductive FileChange where
  /-- Makes a directory in a directory that exists. -/
  | makeDirectory (path : Path)
  /-- Makes an empty file where nothing is yet. -/
  | create (path : Path)
  /-- Gives a file its content, whether it exists or not. -/
  | write (path : Path) (content : ByteArray)
  /-- Gives a file the content of another one. -/
  | copy (source target : Path)
  /-- Moves a file to a path, in one step and in place of a file that is there. -/
  | replace (source target : Path)
  | remove (path : Path)

/-- The requests that a file system answers. -/
class FileSystem (m : Type → Type) where
  /-- The directory that relative paths are seen from. -/
  directory : m Path
  homes : m Path.Homes
  /-- What a path leads to, if it leads anywhere. -/
  kind? : Path → m (Except FileError (Option FileKind))
  read : Path → m (Except FileError ByteArray)
  change : FileChange → m (Except FileError Unit)
  /-- Opens a file as the log file for the records of some level and above. It is made if it does
  not exist. -/
  openLog : Path → LogLevel → m (Except FileError Unit)
  /-- Adds a record to the log file, if one is open. -/
  record : LogRecord → m Unit
  /-- Closes the log file, if one is open. -/
  closeLog : m Unit

end HubProxy
