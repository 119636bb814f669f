import HubProxy.Run.Step

/-!
# Replacing a file

`write` gives a file new content so that the file holds either all of it or what it held before. The
content goes into a file of its own first, which then takes the place of the target in one step. A
copy of what the target held is kept until then.
-/

namespace HubProxy.Run

variable {m : Type → Type} [Monad m] [FileSystem m]

def backupSuffix : String := ".bak"

def backupPath (path : Path) : Except FileError Path :=
  match path.withName? (path.name ++ backupSuffix) with
  | some backup => .ok backup
  | none => .error (.nameless path)

/-- The name of a file that holds the content of another one for a while: its token has eight
characters at least. -/
def temporaryName (name : String) (token : Nat) : String :=
  let digits := Nat.toDigits 10 token
  let token := String.ofList (List.replicate (8 - digits.length) '0' ++ digits)
  "." ++ name ++ "." ++ token ++ ".tmp"

/-- How many names are tried for such a file. -/
def maxTokens : Nat := 10000

/-- Makes an empty file beside a path, under the first name that is free. -/
def createTemporary (path : Path) : Nat → Nat → RunM m Path
  | 0, _ => throw (.file (.refused "[Errno 17] No usable temporary file name found"))
  | tries + 1, token => do
    let temporary := path.parent.child (temporaryName path.name token)
    match ← attempt (.create temporary) with
    | .ok () => return temporary
    | .error (.taken _) => createTemporary path tries (token + 1)
    | .error e => throw (.file e)

/-- Removes a file if it is there. -/
def removeIfPresent (path : Path) : RunM m Unit := do
  match ← attempt (.remove path) with
  | .ok () | .error (.notFound _) => return
  | .error e => throw (.file e)

def writeNote (level : LogLevel) (message : String) : RunM m Unit :=
  note ⟨level, "writer", message⟩

/-- Puts content into a file that then takes the place of another one. -/
def fillAndReplace (temporary path : Path) (text : String) : RunM m Unit := do
  change (.write temporary text.toUTF8)
  writeNote .debug ("Writing source to " ++ path.text)
  change (.replace temporary path)

/-- Takes back what was done since the temporary file was made. -/
def restore (temporary path backup : Path) (existed : Bool) : RunM m Unit := do
  removeIfPresent temporary
  if existed then
    if (← kind? backup).isSome then
      writeNote .warning ("Write to " ++ path.text ++ " failed; restoring previous version")
      change (.replace backup path)

/-- Copies a file to its backup, in place of an older one. -/
def backUp (path backup : Path) : RunM m Unit := do
  writeNote .debug ("Backing up " ++ path.text ++ " to " ++ backup.text)
  removeIfPresent backup
  change (.copy path backup)

/-- Gives a file new content, and the directories above it that are missing. A failure leaves the
file as it was. -/
def write (path : Path) (text : String) : RunM m Unit := do
  makeDirectories path.parent
  let backup ← liftM ((backupPath path).mapError RunError.file)
  let existed := (← kind? path).isSome
  if existed then backUp path backup
  let temporary ← createTemporary path maxTokens 0
  try fillAndReplace temporary path text
  catch failure =>
    restore temporary path backup existed
    throw failure
  if existed then removeIfPresent backup

end HubProxy.Run
