import HubProxy.Document.Load
import HubProxy.Run.Step

/-!
# Settings from a file

A settings file is a document whose mapping gives the settings. The directory that it is in is the
root that relative paths are seen from.
-/

namespace HubProxy.Run

variable {m : Type → Type} [Monad m] [FileSystem m]

def settingsFileName : String := ".hubgen.yml"

def settingValue : Document.Value → SettingValue
  | .scalar (.text s) => .text s
  | .scalar (.int n) => (Decimal.wholeText? n).elim .longNumber .number
  | .scalar (.float x) => .number (Decimal.text x)
  | .scalar (.notANumber _) => .number "nan"
  | _ => .other

def settingsEntries (name text : String) : Except SettingsError (List (String × SettingValue)) :=
  if Text.isBlankText text then .error (.empty name)
  else
    match Document.load text with
    | .error .malformed => .error (.unparsable name)
    | .error cause => .error (.badScalar cause)
    | .ok doc =>
      match doc.value doc.top with
      | .mapping entries =>
        entries.mapM fun (key, id) =>
          match key.outer? with
          | some name => .ok (name, settingValue (doc.value id))
          | none => .error .numberTooLong
      | _ => .error (.rootNotMapping name)

/-- The settings file that a path means: the path itself, or the settings file of a directory. -/
def settingsFile (path : Path) : RunM m Path := do
  match path.expandHome? (← homes) with
  | none => throw (.settings .unknownAccount)
  | some path => resolve (if ← isDirectory path then path.child settingsFileName else path)

/-- The settings that a file or a directory gives. -/
def loadSettings (path : Path) : RunM m Settings := do
  let file ← settingsFile path
  unless ← isFile file do throw (.settings (.fileNotFound file.text))
  let text ← readText file
  let homes ← homes
  let settings := do
    Settings.ofEntries homes file.parent (← settingsEntries file.name text)
  liftM (settings.mapError RunError.settings)

end HubProxy.Run
