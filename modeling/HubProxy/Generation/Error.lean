/-!
# Why generation fails

Each cause carries what its message mentions. `BuildError.message` is the wording.
-/

namespace HubProxy

/-- A cause for which no proxy can be generated from a contract. -/
inductive BuildError where
  /-- A type with arguments is used. -/
  | genericType (display : String)
  /-- Something is used as a type that is none. -/
  | unknownKind (display : String)
  /-- A server-received operation yields a value or is not asynchronous. -/
  | notAsyncVoid (operation : String) (returns : Option String)
  /-- A callback has more parameters than a handler can take. -/
  | tooManyParameters (operation : String) (count : Nat)
  | noHub (source : String)
  | noClientApi (source : String)
  | severalClientApis (names : List String)
  /-- Two types of different shapes share a name. -/
  | typeConflict (name : String)
  | duplicateDeclaration (name : String)
  | emptyPropertyName
  /-- The name of something nameless was asked for. -/
  | nameless
  deriving DecidableEq, Repr

/-- A handler of a client callback takes at most this many arguments. -/
def maxHandlerArguments : Nat := 8

def BuildError.message : BuildError → String
  | .genericType display =>
    "Cannot generate type '" ++ display ++ "': generic types are not supported"
  | .unknownKind display =>
    "Cannot generate type '" ++ display ++ "': type kind is not supported"
  | .notAsyncVoid operation returns =>
    let shown := match returns with
      | none | some "" => "a non-async signature"
      | some text => text
    "Operation '" ++ operation
      ++ "' must be asynchronous and return no value (Task); found " ++ shown
  | .tooManyParameters operation count =>
    "Operation '" ++ operation ++ "' has " ++ toString count
      ++ " parameters; client callbacks take at most " ++ toString maxHandlerArguments
  | .noHub source => "No hub contract found in " ++ source
  | .noClientApi source => "No client API description found in " ++ source
  | .severalClientApis names =>
    "Expected one client API description, found: " ++ ", ".intercalate names
  | .typeConflict name => "Type '" ++ name ++ "' is declared twice with different shapes"
  | .duplicateDeclaration name => "Type '" ++ name ++ "' is already declared"
  | .emptyPropertyName => "Property name must not be empty"
  | .nameless => "something without a name is used as a type"

/-- Whether the cause lies in the contract, so that it is reported as a failed generation. The
others are faults of the caller. -/
def BuildError.isReported : BuildError → Bool
  | .emptyPropertyName | .nameless => false
  | _ => true

end HubProxy
