import HubProxy.Command.Execute
import Std.Time.Zoned

/-!
# The program

The file system of the machine, and the entry point: it hands the arguments to `Command.run` and
shows the report.
-/

namespace HubProxy.Machine

/-- A failure of the machine at a path. A number may come with its sign changed. -/
def failure (path : Path) (e : IO.Error) : FileError :=
  match e with
  | .noFileOrDirectory .. => .notFound path
  | .alreadyExists .. => .taken path
  | .inappropriateType _ n _ =>
    if n = 20 ∨ 0 - n = 20 then .notDirectory path
    else if n = 21 ∨ 0 - n = 21 then .isDirectory path
    else .refused (toString e)
  | .invalidArgument _ n _ => if n = 36 then .nameTooLong path else .refused (toString e)
  | _ => .refused (toString e)

def attempt (path : Path) (action : IO α) : BaseIO (Except FileError α) := do
  if path.holdsNull then return .error .nullInName
  match ← action.toBaseIO with
  | .ok a => return .ok a
  | .error e => return .error (failure path e)

/-- What a path leads to. A directory opens like a file but cannot be read. -/
def kind? (path : Path) : BaseIO (Except FileError (Option FileKind)) := do
  let probe : IO ByteArray := do
    let handle ← IO.FS.Handle.mk path.text .read
    handle.read 1
  match ← attempt path probe with
  | .ok _ => return .ok (some .file)
  | .error (.isDirectory _) => return .ok (some .directory)
  | .error (.nameTooLong p) => return .error (.nameTooLong p)
  | .error _ => return .ok none

def change : FileChange → BaseIO (Except FileError Unit)
  | .makeDirectory path => attempt path (IO.FS.createDir path.text)
  | .create path => attempt path do discard (IO.FS.Handle.mk path.text .writeNew)
  | .write path content => attempt path (IO.FS.writeBinFile path.text content)
  | .copy source target => do
    match ← attempt source (IO.FS.readBinFile source.text) with
    | .error e => return .error e
    | .ok content => attempt target (IO.FS.writeBinFile target.text content)
  | .replace source target => attempt target (IO.FS.rename source.text target.text)
  | .remove path => do
    match ← kind? path with
    | .ok (some .directory) => return .error (.isDirectory path)
    | _ => attempt path (IO.FS.removeFile path.text)

/-- The home directory in a line of the table of accounts. -/
def homeIn (account line : String) : Option Path :=
  match line.splitOn ":" with
  | [name, _, _, _, _, home, _] => if name = account then some (Path.ofText home) else none
  | _ => none

def homes : BaseIO Path.Homes := do
  let own ← IO.getEnv "HOME"
  let table ← (IO.FS.readFile "/etc/passwd").toBaseIO
  let lines := match table with
    | .ok text => text.splitOn "\n"
    | .error _ => []
  return fun account =>
    if account = "" then own.map Path.ofText else lines.findSome? (homeIn account)

def padded (width n : Nat) : String :=
  let digits := toString n
  String.ofList (List.replicate (width - digits.length) '0') ++ digits

def timeText : BaseIO String := do
  match ← (Std.Time.PlainDateTime.now : IO Std.Time.PlainDateTime).toBaseIO with
  | .error _ => return ""
  | .ok now =>
    let two (n : Int) := padded 2 n.toNat
    return padded 4 now.year.toInt.toNat ++ "-" ++ two now.month.toInt ++ "-" ++ two now.day.toInt
      ++ " " ++ two now.hour.toInt ++ ":" ++ two now.minute.toInt ++ ":" ++ two now.second.toInt
      ++ "," ++ padded 3 now.millisecond.toInt.toNat

/-- An open log file and the least level that is added. -/
structure OpenLog where
  handle : IO.FS.Handle
  threshold : LogLevel

/-- A step on the machine, which may have a log file open. -/
abbrev MachineM := StateT (Option OpenLog) BaseIO

def directory : BaseIO Path := do
  match ← IO.currentDir.toBaseIO with
  | .ok path => return Path.ofText path.toString
  | .error _ => return Path.ofText "/"

def openLog (path : Path) (threshold : LogLevel) : MachineM (Except FileError Unit) := do
  let path := path.resolveIn (← directory)
  match ← attempt path (IO.FS.Handle.mk path.text .append) with
  | .ok handle =>
    set (some (⟨handle, threshold⟩ : OpenLog))
    return .ok ()
  | .error e => return .error e

/-- Adds a record to the log file. A failure is passed over. -/
def record (r : LogRecord) : MachineM Unit := do
  if let some log ← get then
    if r.passes log.threshold then
      let line := r.timedLine (← timeText)
      let written : IO Unit := do
        log.handle.putStr line
        log.handle.flush
      let _ ← written.toBaseIO

instance : FileSystem MachineM where
  directory := directory
  homes := homes
  kind? := fun path => kind? path
  read := fun path => attempt path (IO.FS.readBinFile path.text)
  change := fun c => change c
  openLog := openLog
  record := record
  closeLog := set (none : Option OpenLog)

end HubProxy.Machine

def main (arguments : List String) : IO UInt32 := do
  let (report, _) ← ((HubProxy.Command.run arguments : HubProxy.Machine.MachineM _).run none :
    BaseIO _)
  IO.print report.output
  IO.eprint report.errors
  match report.status with
  | .ok status => return status.toUInt32
  | .error cause =>
    IO.eprintln cause.message
    return 1
