import HubProxy.Document.Error
import HubProxy.Text.Quoted

/-!
# Why a contract cannot be read

The causes for which a contract source yields no metadata. Each carries what its message mentions.
-/

namespace HubProxy

inductive ContractError where
  /-- The text at a place is no document. -/
  | unparsable (source : String)
  /-- A scalar in a document does not read as what its tag says. -/
  | badScalar (cause : Document.LoadError)
  /-- A name or a result is a number that is too long to be shown. -/
  | numberTooLong
  | documentNotFound (path : String)
  | rootNotMapping (source : String)
  | notMapping (place : String)
  | operationsNotList (part : String)
  | operationWithoutName (place : String)
  | typeNotText (place : String)
  | unknownType (place text : String)
  | unknownKind (type kind : String)
  | membersNotNames (type : String)
  /-- A module file does not exist. -/
  | moduleNotFound (path : String)
  | moduleNotImported (source reason : String)
  | moduleFailed (path reason : String)
  | moduleWithoutName
  /-- The name of a module is seen from another module, where there is none. -/
  | relativeModule (source : String)
  /-- A path starts at the home of an unknown account. -/
  | unknownAccount
  /-- An annotation of a function or a class means nothing. -/
  | unresolvedAnnotations (label reason : String)
  /-- An annotation is no type of a contract. -/
  | uninterpretable (shown : String)
  | variadicParameter (function parameter : String)
  | unannotated (function parameter : String)
  /-- The parameters of a function are not told. -/
  | untoldParameters (function : String)
  deriving DecidableEq, Repr

def ContractError.message : ContractError → String
  | .unparsable source => "Failed to parse " ++ source
  | .badScalar _ => "a scalar does not read as what its tag says"
  | .numberTooLong => "a number is too long to be shown"
  | .documentNotFound path => "Contract document [" ++ path ++ "] not found"
  | .rootNotMapping source => source ++ " must contain a mapping at the root"
  | .notMapping place => place ++ " must be a mapping"
  | .operationsNotList part => part ++ ".operations must be a list"
  | .operationWithoutName place => place ++ ": operation name is required"
  | .typeNotText place => place ++ ": type must be a non-empty string"
  | .unknownType place text => place ++ ": unknown type '" ++ text ++ "'"
  | .unknownKind type kind => "types." ++ type ++ ": unknown kind '" ++ kind ++ "'"
  | .membersNotNames type => "types." ++ type ++ ".members must be a list of names"
  | .moduleNotFound path => "Contract module [" ++ path ++ "] not found"
  | .moduleNotImported source reason =>
    "Cannot import contract module '" ++ source ++ "': " ++ reason
  | .moduleFailed path reason => "Failed to execute contract module " ++ path ++ ": " ++ reason
  | .moduleWithoutName => "Empty module name"
  | .relativeModule source =>
    "the 'package' argument is required to perform a relative import for " ++ Text.quoted source
  | .unknownAccount => "Could not determine home directory."
  | .unresolvedAnnotations label reason =>
    "Cannot resolve type annotations of " ++ label ++ ": " ++ reason
  | .uninterpretable shown => "Cannot interpret type annotation " ++ shown
  | .variadicParameter function parameter =>
    function ++ ": variadic parameter '" ++ parameter ++ "' is not supported"
  | .unannotated function parameter =>
    function ++ ": parameter '" ++ parameter ++ "' has no type annotation"
  | .untoldParameters function => function ++ ": the parameters are not told"

/-- Whether the cause lies in the contract, so that it is reported as such. -/
def ContractError.isReported : ContractError → Bool
  | .badScalar _ | .numberTooLong | .moduleWithoutName | .relativeModule _ | .unknownAccount
  | .untoldParameters _ => false
  | _ => true

end HubProxy
