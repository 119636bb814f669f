import HubProxy.Document.Error
import HubProxy.Generation.Build
import HubProxy.Path
import HubProxy.Text.Blank

/-!
# Settings

What a run is told: which contract to read, which class to write and where. `Settings.ofEntries`
takes the entries of a settings mapping in the order given. Four settings are required, all others
have a default, and unknown ones are ignored.
-/

namespace HubProxy

/-- A value that a setting is given. Only texts and numbers say something. -/
inductive SettingValue where
  | text (s : String)
  | number (shown : String)
  /-- A number that is too long to be shown. -/
  | longNumber
  | other
  deriving DecidableEq, Repr, Inhabited

structure Settings where
  root : Path
  ns : String
  className : String
  target : Path
  contractSource : String
  typeSource : Option Path
  options : BuildOptions

/-- A cause for which there are no settings of a run. -/
inductive SettingsError where
  | missing (names : List String)
  | unsupportedVisibility (visibility : String)
  /-- A path starts at the home of an unknown account. -/
  | unknownAccount
  /-- No settings file is at a path. -/
  | fileNotFound (path : String)
  /-- The settings file of a name says nothing. -/
  | empty (name : String)
  /-- The settings file of a name is no document. -/
  | unparsable (name : String)
  | rootNotMapping (name : String)
  /-- A scalar in a settings file does not read as what its tag says. -/
  | badScalar (cause : Document.LoadError)
  /-- A setting or its name is a number that is too long to be shown. -/
  | numberTooLong
  deriving DecidableEq, Repr

def SettingsError.message : SettingsError → String
  | .missing names => "Missing required settings: " ++ ", ".intercalate names
  | .unsupportedVisibility visibility => "Unsupported member_visibility '" ++ visibility ++ "'"
  | .unknownAccount => "Could not determine home directory."
  | .fileNotFound path => "Configuration file not found: " ++ path
  | .empty name => name ++ " is empty"
  | .unparsable name => "Failed to parse " ++ name
  | .rootNotMapping name => name ++ " must contain a mapping at the root"
  | .badScalar _ => "a scalar does not read as what its tag says"
  | .numberTooLong => "a number is too long to be shown"

/-- Whether the cause lies in the settings, so that it is reported as such. -/
def SettingsError.isReported : SettingsError → Bool
  | .unknownAccount | .badScalar _ | .numberTooLong => false
  | _ => true

/-- The text of a value without the white space around it, unless that leaves nothing. -/
def SettingValue.trimmed? : SettingValue → Except SettingsError (Option String)
  | .text s => .ok (if Text.isBlankText s then none else some (Text.trim s))
  | .number shown => .ok (some shown)
  | .longNumber => .error .numberTooLong
  | .other => .ok none

/-- The text of a value as it was given. -/
def SettingValue.given : SettingValue → String
  | .text s => s
  | .number shown => shown
  | .longNumber | .other => ""

namespace Settings

/-- The name of a setting that is also known under an older one. -/
def currentName (name : String) : String :=
  if name = "TargetNamespace" then "target_namespace"
  else if name = "TargetClassName" then "target_class_name"
  else if name = "TargetFilePath" then "target_file_path"
  else if name = "TypeSourceCsPath" then "type_source_path"
  else if name = "SourceAssemblyPath" then "contract_source"
  else name

/-- The settings without which there is no run. -/
def required : List String :=
  ["target_namespace", "target_class_name", "target_file_path", "contract_source"]

/-- The visibilities that members of the proxy may have. -/
def visibilities : List String :=
  ["public", "protected", "internal", "private", "protected internal"]

/-- A mapping as a list holds each name once, where it was first given, with its last value. -/
def ofPairs (pairs : List (String × α)) : List (String × α) :=
  pairs.foldl (fun entries (name, value) =>
    if entries.any (·.1 == name) then
      entries.map fun entry => if entry.1 = name then (name, value) else entry
    else entries ++ [(name, value)]) []

/-- The last value that is given for a setting, under whichever of its names. -/
def valueOf (entries : List (String × SettingValue)) (name : String) : SettingValue :=
  ((entries.reverse.find? fun entry => currentName entry.1 == name).map (·.2)).getD .other

/-- A path in a setting: a home is put in, and any other path is seen from the root. -/
def resolvePath (homes : Path.Homes) (root : Path) (value : String) : Except SettingsError Path :=
  match (Path.ofText value).expandHome? homes with
  | none => .error .unknownAccount
  | some path => .ok (root.join path)

/-- Whether the contract source in a setting names a file. Any other one is a dotted name. -/
def namesFile (value : String) : Bool :=
  [".py", ".yml", ".yaml", ".json"].any (fun ending => ending.toList.isSuffixOf value.toList)
    || value.toList.any fun c => c == '/' || c == '\\'

/-- A contract source: the path of a file is resolved, a dotted name stays. -/
def resolveSource (homes : Path.Homes) (root : Path) (value : String) :
    Except SettingsError String :=
  if namesFile value then (resolvePath homes root value).map Path.text else .ok value

def ofEntries (homes : Path.Homes) (root : Path) (entries : List (String × SettingValue)) :
    Except SettingsError Settings := do
  let value := valueOf entries
  let missing ← required.filterM fun name => return (← (value name).trimmed?).isNone
  if !missing.isEmpty then throw (.missing missing)
  let visibility := (← (value "member_visibility").trimmed?).getD "protected"
  if !visibilities.contains visibility then throw (.unsupportedVisibility visibility)
  let types? ← (value "type_source_path").trimmed?
  let target ← resolvePath homes root (value "target_file_path").given
  let contractSource ← resolveSource homes root (value "contract_source").given
  let typeSource ← types?.mapM (resolvePath homes root)
  let connectionProperty := (← (value "connection_property").trimmed?).getD "HubConnection"
  let clientSuffix := (← (value "client_method_suffix").trimmed?).getD "On"
  return {
    root, target, contractSource, typeSource
    ns := (value "target_namespace").given
    className := (value "target_class_name").given
    options := { connectionProperty, visibility, clientSuffix } }

end Settings

end HubProxy
