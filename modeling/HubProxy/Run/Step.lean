import HubProxy.Contract.Error
import HubProxy.Files.System
import HubProxy.Generation.Error
import HubProxy.Log
import HubProxy.Settings
import HubProxy.Text.Lines

/-!
# Steps of a run

A step of a run works on a file system, keeps a log and may fail. What was logged and what was
changed before a failure stays.
-/

namespace HubProxy

inductive RunError where
  | settings (cause : SettingsError)
  | contract (cause : ContractError)
  | build (cause : BuildError)
  | file (cause : FileError)
  deriving DecidableEq, Repr

def RunError.message : RunError → String
  | .settings cause => cause.message
  | .contract cause => cause.message
  | .build cause => cause.message
  | .file cause => cause.message

abbrev RunM (m : Type → Type) := ExceptT RunError (StateT (List LogRecord) m)

namespace Run

variable {m : Type → Type} [Monad m] [FileSystem m]

/-- Adds a record to the log and to the log file. -/
def note (record : LogRecord) : RunM m Unit := do
  modify (· ++ [record])
  liftM (FileSystem.record record : m Unit)

/-- The outcome of a computation that kept a log of its own. -/
def logged (outcome : Except RunError α × List LogRecord) : RunM m α := do
  outcome.2.forM note
  liftM outcome.1

/-- The outcome of a change, which may be a failure. -/
def attempt (change : FileChange) : RunM m (Except FileError Unit) :=
  liftM (FileSystem.change change : m _)

def change (change : FileChange) : RunM m Unit := do
  liftM ((← attempt change).mapError RunError.file)

def kind? (path : Path) : RunM m (Option FileKind) := do
  let kind ← liftM (FileSystem.kind? path : m _)
  liftM (kind.mapError RunError.file)

def isFile (path : Path) : RunM m Bool :=
  return (← kind? path) == some .file

def isDirectory (path : Path) : RunM m Bool :=
  return (← kind? path) == some .directory

def homes : RunM m Path.Homes :=
  liftM (FileSystem.homes : m Path.Homes)

def resolve (path : Path) : RunM m Path := do
  if path.holdsNull then throw (.file .nullInName)
  return path.resolveIn (← liftM (FileSystem.directory : m Path))

/-- The text of a file. Line breaks of every kind are read as line feeds. -/
def readText (path : Path) : RunM m String := do
  let content ← liftM (FileSystem.read path : m _)
  match content with
  | .error e => throw (.file e)
  | .ok bytes =>
    match String.fromUTF8? bytes with
    | none => throw (.file .undecodable)
    | some text => return String.ofList (Text.unifyBreaks text.toList)

/-- Makes a directory and those above it, as far as they do not exist. The first argument bounds how
many there are. -/
def makeDirectoriesFrom : Nat → Path → RunM m Unit
  | 0, path => ensure path
  | above + 1, path => do
    match ← attempt (.makeDirectory path) with
    | .ok () => return
    | .error (.notFound _) =>
      makeDirectoriesFrom above path.parent
      ensure path
    | .error e => unless ← isDirectory path do throw (.file e)
where
  /-- Makes a directory unless it exists. -/
  ensure (path : Path) : RunM m Unit := do
    match ← attempt (.makeDirectory path) with
    | .ok () => return
    | .error e => unless ← isDirectory path do throw (.file e)

/-- Makes a directory and those above it, as far as they do not exist. -/
def makeDirectories (path : Path) : RunM m Unit :=
  makeDirectoriesFrom path.parts.length path

end Run

end HubProxy
