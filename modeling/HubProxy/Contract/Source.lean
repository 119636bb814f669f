import HubProxy.Contract.Error
import HubProxy.Contract.Metadata
import HubProxy.Path

/-!
# Contract sources

A source says where a contract is: in a document, in a module file, or in a module that is known by
its name. The suffix decides, and a source that starts at a home directory names a file there.
-/

namespace HubProxy

inductive ContractSource where
  | document (path : Path)
  | moduleFile (path : Path)
  | namedModule (name : String)
  deriving DecidableEq, Repr

/-- The suffixes of documents, whose letters may be of either case. -/
def documentSuffixes : List String := [".yml", ".yaml", ".json"]

def moduleSuffix : String := ".py"

/-- The modules that are known by name, each with whether it holds further ones. -/
def knownModules : List (String × Bool) :=
  [("hubgen", true), ("hubgen.contract", false)]

/-- Why a module is not known whose name has further pieces after a known part. -/
def missingModule? (known : String) : List String → Option String
  | [] => none
  | piece :: rest =>
    let name := if known = "" then piece else known ++ "." ++ piece
    match knownModules.lookup name with
    | some _ => missingModule? name rest
    | none =>
      let hint :=
        if knownModules.lookup known = some false then
          "; " ++ Text.quoted known ++ " is not a package"
        else ""
      some ("No module named " ++ Text.quoted name ++ hint)

def splitDots : List Char → List (List Char)
  | [] => [[]]
  | c :: rest =>
    match splitDots rest with
    | [] => [[c]]
    | piece :: more => if c = '.' then [] :: piece :: more else (c :: piece) :: more

/-- The contract of a module that is known by its name; such a module defines no contract type. -/
def namedModule (name : String) : Except ContractError Metadata :=
  if name = "" then .error .moduleWithoutName
  else if ".".toList.isPrefixOf name.toList then .error (.relativeModule name)
  else
    match missingModule? "" ((splitDots name.toList).map String.ofList) with
    | some reason => .error (.moduleNotImported name reason)
    | none => .ok ⟨name, [], #[]⟩

def ContractSource.ofText (homes : Path.Homes) (source : String) :
    Except ContractError ContractSource :=
  let path := Path.ofText source
  if documentSuffixes.contains (String.ofList (path.suffix.toList.map Char.toLower)) then
    .ok (.document path)
  else
    match path.expandHome? homes with
    | none => .error .unknownAccount
    | some expanded =>
      if expanded.suffix = moduleSuffix then .ok (.moduleFile expanded)
      else .ok (.namedModule source)

end HubProxy
