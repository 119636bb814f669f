import HubProxy.Contract.Module.Literal

/-!
# Values of type terms

What a type term of a module stands for: a class, a type variable, one of the type forms of the
language, a form or a class applied to arguments, a union, or something that is no type at all.
Every value has a text for messages and a short name. A value can be looked up by if no list and no
table is in it.
-/

namespace HubProxy.ContractModule

/-- What makes the objects of a class, and what its subclasses are made as. -/
inductive ClassKind where
  | plain
  /-- A class that leaves members to its subclasses. -/
  | abstract
  /-- An abstract class that describes others by their members. -/
  | protocol
  /-- The class that every type fits. -/
  | anything
  | enumeration
  /-- An enumeration whose members can be put together. -/
  | flags
  deriving DecidableEq, Repr, Inhabited

def ClassKind.name : ClassKind → String
  | .plain => "type"
  | .abstract => "ABCMeta"
  | .protocol => "_ProtocolMeta"
  | .anything => "_AnyMeta"
  | .enumeration | .flags => "EnumType"

def ClassKind.isEnumeration (kind : ClassKind) : Bool :=
  kind == .enumeration || kind == .flags

/-- A class: where it lives, its name, its number if the module at hand defines it, and its kind. -/
structure ClassRef where
  home : String
  name : String
  own : Option Nat := none
  kind : ClassKind := .plain
  deriving DecidableEq, Repr, Inhabited

/-- The home of the classes that need none to be named. -/
def coreHome : String := "builtins"

def coreClass (name : String) : ClassRef := ⟨coreHome, name, none, .plain⟩

def nothingClass : ClassRef := coreClass "NoneType"

def formClass (name : String) : ClassRef :=
  ⟨"typing", name, none,
    if name = "Any" then .anything else if name = "Protocol" then .protocol else .plain⟩

def abstractClass (name : String) : ClassRef := ⟨"collections.abc", name, none, .abstract⟩

def ClassRef.qualified (c : ClassRef) : String :=
  if c.home = coreHome then c.name else c.home ++ "." ++ c.name

/-- The name of a class in messages about its use. Some classes tell their home with it. -/
def ClassRef.tag (c : ClassRef) : String :=
  if c.own.isSome || ["Counter", "ChainMap"].contains c.name then c.name
  else if ["datetime", "decimal", "collections"].contains c.home then c.qualified
  else c.name

def ClassRef.shown (c : ClassRef) : String :=
  if c = formClass "Any" then "typing.Any"
  else if c.kind = .enumeration then "<enum '" ++ c.name ++ "'>"
  else if c.kind = .flags then "<flag '" ++ c.name ++ "'>"
  else "<class '" ++ c.qualified ++ "'>"

/-- A generic type under a name of its own, with the class it stands for. Without a number of
arguments it takes any. -/
structure Alias where
  name : String
  origin : ClassRef
  arity : Option Nat
  deriving DecidableEq, Repr, Inhabited

/-- What is applied to arguments. -/
inductive Head where
  | alias (a : Alias)
  /-- A class that is generic in type variables. -/
  | generic (c : ClassRef)
  /-- A class that takes arguments without any type variables. -/
  | plain (c : ClassRef)
  | form (name : String)
  deriving DecidableEq, Repr, Inhabited

/-- A member of an enumeration: its value is kept as a text, and so is what it is shown as. -/
structure EnumItem where
  owner : ClassRef
  name : String
  value : String
  text : String
  /-- The text that the member is, if the members of the enumeration are texts. -/
  written : Option String
  deriving DecidableEq, Repr, Inhabited

/-- What a type term stands for. -/
inductive TypeValue where
  | cls (c : ClassRef)
  | variable (name : String) (id : Nat)
  /-- A type form without arguments. -/
  | form (name : String)
  | alias (a : Alias)
  | apply (head : Head) (arguments : List TypeValue)
  /-- A union given by the form for it. -/
  | union (members : List TypeValue)
  /-- A union given by the operator for it. -/
  | either (members : List TypeValue)
  | ellipsis
  | list (items : List TypeValue)
  | tuple (items : List TypeValue)
  /-- A written-out value other than a list. -/
  | literal (value : Literal)
  /-- A term to be looked up later. -/
  | forward (term : String)
  /-- A type with remarks that say nothing about it. -/
  | remarked (type : TypeValue) (remarks : List TypeValue)
  | item (i : EnumItem)
  /-- The type of a field that only the constructor of a record takes. -/
  | initial (type : TypeValue)
  /-- The mark before the fields of a record that are given by name only. -/
  | keywordMark
  | module (name : String)
  /-- A function of the core. -/
  | operation (name : String)
  /-- A function of a class. -/
  | routine (name : String)
  deriving Inhabited

def TypeValue.nothing : TypeValue := .literal .nothing

mutual

def TypeValue.ofLiteral : Literal → TypeValue
  | .list items => .list (TypeValue.ofLiterals items)
  | v => .literal v

def TypeValue.ofLiterals : List Literal → List TypeValue
  | [] => []
  | v :: rest => TypeValue.ofLiteral v :: TypeValue.ofLiterals rest

end

/-- Whether two values are written out in the same way: equal and of the same kind. -/
def TypeValue.sameLiteral : TypeValue → TypeValue → Bool
  | .literal a, .literal b => a.kindName == b.kindName && a.same b
  | _, _ => true

mutual

/-- Whether two values are the same type. The order of the members of a union does not matter. -/
def TypeValue.same : TypeValue → TypeValue → Bool
  | .cls a, .cls b => a == b
  | .variable _ a, .variable _ b => a == b
  | .form a, .form b => a == b
  | .alias a, .alias b => a == b
  | .apply (.form "Literal") as, .apply (.form "Literal") bs =>
    TypeValue.allWritten as bs && as.length == bs.length
  | .apply h as, .apply k bs => h == k && TypeValue.sameList as bs
  | .union as, .union bs => TypeValue.allAmong as bs && as.length == bs.length
  | .union as, .either bs => TypeValue.allAmong as bs && as.length == bs.length
  | .either as, .union bs => TypeValue.allAmong as bs && as.length == bs.length
  | .either as, .either bs => TypeValue.allAmong as bs && as.length == bs.length
  | .ellipsis, .ellipsis => true
  | .list as, .list bs => TypeValue.sameList as bs
  | .tuple as, .tuple bs => TypeValue.sameList as bs
  | .literal a, .literal b => a.same b
  | .forward a, .forward b => a == b
  | .remarked a as, .remarked b bs => a.same b && TypeValue.sameList as bs
  | .item a, .item b => a.owner == b.owner && a.name == b.name
  | .initial a, .initial b => a.same b
  | .keywordMark, .keywordMark => true
  | .module a, .module b => a == b
  | .operation a, .operation b => a == b
  | .routine a, .routine b => a == b
  | _, _ => false

def TypeValue.sameList : List TypeValue → List TypeValue → Bool
  | [], [] => true
  | a :: as, b :: bs => a.same b && TypeValue.sameList as bs
  | _, _ => false

def TypeValue.allAmong : List TypeValue → List TypeValue → Bool
  | [], _ => true
  | a :: as, bs => TypeValue.among a bs && TypeValue.allAmong as bs

def TypeValue.among (a : TypeValue) : List TypeValue → Bool
  | [] => false
  | b :: bs => a.same b || TypeValue.among a bs

/-- Whether all values of a list are among others, written out in the same way. -/
def TypeValue.allWritten : List TypeValue → List TypeValue → Bool
  | [], _ => true
  | a :: as, bs => TypeValue.written a bs && TypeValue.allWritten as bs

/-- Whether a value is among others, written out in the same way. -/
def TypeValue.written (a : TypeValue) : List TypeValue → Bool
  | [] => false
  | b :: bs => (a.same b && a.sameLiteral b) || TypeValue.written a bs

end

mutual

/-- The kind of the first list or table in a value, with which it cannot be looked up by. -/
def TypeValue.unhashable? : TypeValue → Option String
  | .list _ => some "list"
  | .literal (.table _) => some "dict"
  | .apply _ arguments => TypeValue.firstUnhashable? arguments
  | .union members => TypeValue.firstUnhashable? members
  | .either members => TypeValue.firstUnhashable? members
  | .tuple items => TypeValue.firstUnhashable? items
  | .remarked type remarks => type.unhashable?.or (TypeValue.firstUnhashable? remarks)
  | _ => none

/-- The kind of the first list or table in several values. -/
def TypeValue.firstUnhashable? : List TypeValue → Option String
  | [] => none
  | v :: rest => v.unhashable?.or (TypeValue.firstUnhashable? rest)

end

def TypeValue.isVariable : TypeValue → Bool
  | .variable .. => true
  | _ => false

/-- Whether a union is one of a type with nothing. -/
def isOptional : List TypeValue → Bool
  | [.cls a, .cls b] => a == nothingClass || b == nothingClass
  | [.cls a, _] => a == nothingClass
  | [_, .cls b] => b == nothingClass
  | _ => false

/-- The class that functions without a body of their own come from. -/
def functionClass : ClassRef := abstractClass "Callable"

/-- Whether the arguments of a function type give its parameters one by one. -/
def givesParameters : List TypeValue → Bool
  | [.ellipsis, _] => false
  | [.list _, _] => false
  | _ => true

mutual

def TypeValue.shown : TypeValue → String
  | .cls c => c.shown
  | .variable name _ => "~" ++ name
  | .form name => "typing." ++ name
  | .alias a => "typing." ++ a.name
  | .apply head arguments =>
    let inner := if namesFunctions head then plainTexts arguments else itemTexts arguments
    let text :=
      match head with
      | .alias a => "typing." ++ a.name
      | .generic c => c.qualified
      | .plain c => c.qualified
      | .form name => "typing." ++ name
    if isFunction head && givesParameters arguments then
      text ++ "[[" ++ ", ".intercalate inner.dropLast ++ "], " ++ inner.getLastD "" ++ "]"
    else text ++ "[" ++ (if inner.isEmpty then "()" else ", ".intercalate inner) ++ "]"
  | .union members =>
    let inner := itemTexts members
    if isOptional members then
      "typing.Optional[" ++ ", ".intercalate (inner.erase "NoneType") ++ "]"
    else "typing.Union[" ++ ", ".intercalate inner ++ "]"
  | .either members =>
    " | ".intercalate ((itemTexts members).map fun t => if t = "NoneType" then "None" else t)
  | .ellipsis => "Ellipsis"
  | .list items => "[" ++ ", ".intercalate (texts items) ++ "]"
  | .tuple [v] => "(" ++ v.shown ++ ",)"
  | .tuple items => "(" ++ ", ".intercalate (texts items) ++ ")"
  | .literal v => v.shown
  | .forward term => "ForwardRef(" ++ Text.quoted term ++ ")"
  | .remarked type remarks =>
    "typing.Annotated[" ++ ", ".intercalate (type.asArgument :: texts remarks) ++ "]"
  | .item i => "<" ++ i.owner.name ++ "." ++ i.name ++ ": " ++ i.value ++ ">"
  | .initial (.cls c) => "dataclasses.InitVar[" ++ c.name ++ "]"
  | .initial type => "dataclasses.InitVar[" ++ type.shown ++ "]"
  | .keywordMark => "<dataclasses.KW_ONLY>"
  | .module m => "<module '" ++ m ++ "'>"
  | .operation f => "<built-in function " ++ f ++ ">"
  | .routine f => "<function " ++ f ++ ">"

def TypeValue.asArgument : TypeValue → String
  | .cls c => c.qualified
  | .ellipsis => "..."
  | v => v.shown

def TypeValue.itemTexts : List TypeValue → List String
  | [] => []
  | v :: rest => v.asArgument :: itemTexts rest

/-- The texts of values as arguments of a class, where functions have names. -/
def TypeValue.plainTexts : List TypeValue → List String
  | [] => []
  | .operation f :: rest => f :: plainTexts rest
  | v :: rest => v.asArgument :: plainTexts rest

def TypeValue.texts : List TypeValue → List String
  | [] => []
  | v :: rest => v.shown :: texts rest

/-- Whether a head shows functions by their names: a class that makes no function type does. -/
def TypeValue.namesFunctions : Head → Bool
  | .plain c => c != functionClass
  | _ => false

def TypeValue.isFunction : Head → Bool
  | .alias a => a.origin == functionClass
  | .plain c => c == functionClass
  | _ => false

end

/-- The name of the kind of a value, which messages tell. -/
def TypeValue.kindName : TypeValue → String
  | .cls c => c.kind.name
  | .variable .. => "TypeVar"
  | .form _ => "_SpecialForm"
  | .alias a =>
    if a.origin = functionClass then "_CallableType"
    else if a.origin = coreClass "tuple" then "_TupleType"
    else "_SpecialGenericAlias"
  | .apply (.plain c) _ =>
    if c = functionClass then "_CallableGenericAlias" else "types.GenericAlias"
  | .apply (.form "Literal") _ => "_LiteralGenericAlias"
  | .apply (.alias a) _ =>
    if a.origin = functionClass then "_CallableGenericAlias" else "_GenericAlias"
  | .apply _ _ => "_GenericAlias"
  | .union _ => "_UnionGenericAlias"
  | .either _ => "types.UnionType"
  | .ellipsis => "ellipsis"
  | .list _ => "list"
  | .tuple _ => "tuple"
  | .literal v => v.kindName
  | .forward _ => "ForwardRef"
  | .remarked .. => "_AnnotatedAlias"
  | .item i => i.owner.name
  | .initial _ => "InitVar"
  | .keywordMark => "_KW_ONLY_TYPE"
  | .module _ => "module"
  | .operation _ => "builtin_function_or_method"
  | .routine _ => "function"

def TypeValue.name : TypeValue → String
  | .cls c => if c = nothingClass then "None" else c.name
  | .variable name _ => name
  | .form name => name
  | .alias a => a.name
  | .apply (.alias a) _ => a.name
  | .apply (.generic c) _ => c.name
  | .apply (.plain c) _ => c.name
  | .apply (.form name) _ => name
  | .union members => if isOptional members then "Optional" else "Union"
  | .literal (.text s) => s
  | .item i => i.text
  | .module name => name
  | .operation name => name
  | .routine name => name
  | v => v.shown

def Head.origin : Head → ClassRef
  | .alias a => a.origin
  | .generic c => c
  | .plain c => c
  | .form name => formClass name

/-- What a type was made from by arguments, and the arguments. -/
def TypeValue.parts? : TypeValue → Option (ClassRef × List TypeValue)
  | .alias a => some (a.origin, [])
  | .apply head arguments =>
    let arguments :=
      if TypeValue.isFunction head && givesParameters arguments then
        [.list arguments.dropLast, arguments.getLastD .ellipsis]
      else arguments
    some (head.origin, arguments)
  | .union members => some (formClass "Union", members)
  | .either members => some ({ home := "types", name := "UnionType" }, members)
  | .cls c => if c = formClass "Generic" then some (c, []) else none
  | _ => none

end HubProxy.ContractModule
