import HubProxy.Text.Quoted

/-!
# Faults of a contract module

Why a term stands for no type, and why a module cannot be carried out.
-/

namespace HubProxy.ContractModule

/-- A cause for which a term stands for no type or a definition cannot be carried out. -/
inductive Fault where
  | undefinedName (name : String)
  | undefinedMember (owner name : String)
  /-- A name that an enumeration or a type form does not hold, or a key that is missing. -/
  | missing (shown : String)
  | notAnExpression (shown : String)
  | unhashable (kind : String)
  /-- A place in a list or a text is given by something other than a number. -/
  | badIndex (reason kind : String)
  | outOfRange (owner : String)
  | notAnArgument (shown : String)
  | plainForm (shown : String)
  | severalArguments (reason shown : String)
  | argumentCount (shown : String) (actual expected : Nat)
  | notGeneric (shown : String)
  | notApplicable (shown : String)
  | appliedBefore (shown : String)
  | functionShape
  | noParameters (shown : String)
  | remarkMissing
  | emptyUnion
  | noArguments (shown : String)
  | noUnion (left right : String)
  | notVariables (shown : String)
  | variablesRepeated (shown : String)
  | unlistedVariables (unlisted listed : List String)
  | severalGenericBases
  | plainGenericBase
  | noBase (shown : String)
  /-- The kind of something that is no class cannot make one. -/
  | noClass (reason : String)
  | kindConflict
  | closedBase (name : String)
  | layoutConflict
  | repeatedBase (name : String)
  | inconsistentOrder (names : List String)
  | protocolBase (shown : String)
  | defaultTooEarly (field : String)
  | sharedDefault (type field : String)
  | keywordsTwice (field : String)
  | extendsMembers (name base : String)
  | enumerationNotLast
  | severalDataTypes (name types : String)
  | withoutDataType
  | repeatedMember (name value : String)
  | reservedMember (name : String)
  | invalidMember (name : String)
  | ignoredTooLate (names : String)
  | notIterable (kind : String)
  | memberOrder (actual expected : String)
  | notANumber (kind : String)
  | badNumeral (text : String)
  | longNumeral (digits : Nat)
  | notAFraction (kind : String)
  | badFraction (text : String)
  | notAText (shown : String)
  | raised (text : String)
  deriving DecidableEq, Repr

def Fault.message : Fault → String
  | .undefinedName name => "name " ++ Text.quoted name ++ " is not defined"
  | .undefinedMember owner name => owner ++ " has no attribute " ++ Text.quoted name
  | .missing shown => shown
  | .notAnExpression shown => "Forward reference must be an expression -- got " ++ shown
  | .unhashable kind => "unhashable type: '" ++ kind ++ "'"
  | .badIndex reason kind => reason ++ ", not " ++ kind
  | .outOfRange owner => owner ++ " index out of range"
  | .notAnArgument shown => shown ++ " is not valid as type argument"
  | .plainForm shown => "Plain " ++ shown ++ " is not valid as type argument"
  | .severalArguments reason shown =>
    reason ++ " Got " ++ String.ofList (shown.toList.take 100) ++ "."
  | .argumentCount shown actual expected =>
    "Too " ++ (if expected < actual then "many" else "few") ++ " arguments for " ++ shown
      ++ "; actual " ++ toString actual ++ ", expected " ++ toString expected
  | .notGeneric shown => shown ++ " is not a generic class"
  | .notApplicable shown => shown ++ " is not subscriptable"
  | .appliedBefore shown => "Cannot subscript already-subscripted " ++ shown
  | .functionShape => "Callable must be used as Callable[[arg, ...], result]."
  | .noParameters shown =>
    "Expected a list of types, an ellipsis, ParamSpec, or Concatenate. Got " ++ shown
  | .remarkMissing =>
    "Annotated[...] should be used with at least two arguments (a type and an annotation)."
  | .emptyUnion => "Cannot take a Union of no types."
  | .noArguments shown => "Parameter list to " ++ shown ++ "[...] cannot be empty"
  | .noUnion left right =>
    "unsupported operand type(s) for |: '" ++ left ++ "' and '" ++ right ++ "'"
  | .notVariables shown =>
    "Parameters to " ++ shown
      ++ "[...] must all be type variables or parameter specification variables."
  | .variablesRepeated shown => "Parameters to " ++ shown ++ "[...] must all be unique"
  | .unlistedVariables unlisted listed =>
    "Some type variables (" ++ ", ".intercalate unlisted ++ ") are not listed in Generic["
      ++ ", ".intercalate listed ++ "]"
  | .severalGenericBases => "Cannot inherit from Generic[...] multiple times."
  | .plainGenericBase => "Cannot inherit from plain Generic"
  | .noBase shown => "Cannot subclass " ++ shown
  | .noClass reason => reason
  | .kindConflict =>
    "metaclass conflict: the metaclass of a derived class must be a (non-strict) subclass of "
      ++ "the metaclasses of all its bases"
  | .closedBase name => "type '" ++ name ++ "' is not an acceptable base type"
  | .layoutConflict => "multiple bases have instance lay-out conflict"
  | .repeatedBase name => "duplicate base class " ++ name
  | .inconsistentOrder names =>
    "Cannot create a consistent method resolution\norder (MRO) for bases "
      ++ ", ".intercalate names
  | .protocolBase shown => "Protocols can only inherit from other protocols, got " ++ shown
  | .defaultTooEarly field =>
    "non-default argument " ++ Text.quoted field ++ " follows default argument"
  | .sharedDefault type field =>
    "mutable default <class '" ++ type ++ "'> for field " ++ field
      ++ " is not allowed: use default_factory"
  | .keywordsTwice field =>
    Text.quoted field ++ " is KW_ONLY, but KW_ONLY has already been specified"
  | .extendsMembers name base => "<enum " ++ Text.quoted name ++ "> cannot extend " ++ base
  | .enumerationNotLast =>
    "new enumerations should be created as "
      ++ "\x60EnumName([mixin_type, ...] [data_type,] enum_type)\x60"
  | .severalDataTypes name types =>
    "too many data types for " ++ Text.quoted name ++ ": \x7b" ++ types ++ "\x7d"
  | .withoutDataType =>
    "ReprEnum subclasses must be mixed with a data type (i.e. int, str, float, etc.)"
  | .reservedMember name =>
    "_sunder_ names, such as " ++ Text.quoted name ++ ", are reserved for future Enum use"
  | .invalidMember name => "invalid enum member name(s) " ++ Text.quoted name
  | .ignoredTooLate names => "_ignore_ cannot specify already set names: \x7b" ++ names ++ "\x7d"
  | .notIterable kind => "'" ++ kind ++ "' object is not iterable"
  | .memberOrder actual expected =>
    "member order does not match _order_:\n  " ++ actual ++ "\n  " ++ expected
  | .notANumber kind =>
    "int() argument must be a string, a bytes-like object or a real number, not '" ++ kind ++ "'"
  | .badNumeral text => "invalid literal for int() with base 10: " ++ Text.quoted text
  | .longNumeral digits =>
    "Exceeds the limit (4300 digits) for integer string conversion: value has " ++ toString digits
      ++ " digits; use sys.set_int_max_str_digits() to increase the limit"
  | .notAFraction kind => "float() argument must be a string or a real number, not '" ++ kind ++ "'"
  | .badFraction text => "could not convert string to float: " ++ Text.quoted text
  | .notAText shown => shown ++ " is not a string"
  | .repeatedMember name value => Text.quoted name ++ " already defined as " ++ value
  | .raised text => text

end HubProxy.ContractModule
