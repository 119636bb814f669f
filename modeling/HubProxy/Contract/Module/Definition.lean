import HubProxy.Contract.Module.Literal

/-!
# Definitions of a contract module

A contract may also be given by a module: a list of definitions that are carried out from top to
bottom. Types are given by terms, whose names are looked up when the terms are needed, often only
after the whole module has been carried out.
-/

namespace HubProxy.ContractModule

inductive TypeTerm where
  | nothing
  | name (text : String)
  | member (owner : TypeTerm) (name : String)
  | ellipsis
  | literal (value : Literal)
  | apply (head : TypeTerm) (arguments : List TypeTerm)
  | union (items : List TypeTerm)
  | list (items : List TypeTerm)
  | tuple (items : List TypeTerm)
  deriving Inhabited

mutual

/-- How many parts a term has; a text counts by its length, since it may hold a term. -/
def TypeTerm.size : TypeTerm → Nat
  | .literal (.text s) => 1 + s.length
  | .member owner _ => 1 + owner.size
  | .apply head arguments => 1 + head.size + TypeTerm.sizes arguments
  | .union items => 1 + TypeTerm.sizes items
  | .list items => 1 + TypeTerm.sizes items
  | .tuple items => 1 + TypeTerm.sizes items
  | _ => 1

def TypeTerm.sizes : List TypeTerm → Nat
  | [] => 0
  | t :: rest => t.size + TypeTerm.sizes rest

end

mutual

def TypeTerm.text : TypeTerm → String
  | .nothing => "None"
  | .name s => s
  | .member owner field => owner.text ++ "." ++ field
  | .ellipsis => "..."
  | .literal v => v.shown
  | .apply head arguments =>
    head.text ++ "[" ++ ", ".intercalate (TypeTerm.texts arguments) ++ "]"
  | .union items => " | ".intercalate (TypeTerm.texts items)
  | .list items => "[" ++ ", ".intercalate (TypeTerm.texts items) ++ "]"
  | .tuple items => "(" ++ ", ".intercalate (TypeTerm.texts items) ++ ")"

def TypeTerm.texts : List TypeTerm → List String
  | [] => []
  | t :: rest => t.text :: TypeTerm.texts rest

end

/-- The name that the text of a term starts with, after the name of its owner if it has one. -/
def TypeTerm.leadingName? : TypeTerm → Option (Option String × String)
  | .name s => some (none, s)
  | .member (.name owner) field => some (some owner, field)
  | .member owner _ => owner.leadingName?
  | .apply head _ => head.leadingName?
  | .union (first :: _) => first.leadingName?
  | _ => none

/-- How a parameter takes its arguments. -/
inductive ParameterKind where
  | single
  /-- Takes all further arguments, with or without names. -/
  | variadic
  deriving DecidableEq, Repr, Inhabited

/-- A parameter of a function, whose type may be missing. -/
structure FunctionParameter where
  name : String
  type : Option TypeTerm
  kind : ParameterKind
  deriving Inhabited

/-- The mark of an operation or a client API, with the name that it gives. -/
structure Mark where
  name : Option String
  deriving DecidableEq, Repr, Inhabited

/-- A function of a class. It is bound if it is called with an object or a class in front of its
arguments. The mark counts only where it is on the function itself. -/
structure FunctionDef where
  name : String
  parameters : List FunctionParameter
  isBound : Bool
  isAsync : Bool
  mark : Option Mark
  returns : Option TypeTerm
  deriving Inhabited

inductive MemberDef where
  | field (name : String) (type : TypeTerm) (default : Option TypeTerm)
  /-- A value without a type. -/
  | value (name : String) (value : TypeTerm)
  | function (f : FunctionDef)
  deriving Inhabited

/-- A definition of a class. A record class gets a constructor from its fields. -/
structure ClassDefinition where
  name : String
  bases : List TypeTerm
  members : List MemberDef
  mark : Option Mark
  isRecord : Bool
  deriving Inhabited

inductive Definition where
  | cls (c : ClassDefinition)
  | variable (name : String)
  | alias (name : String) (type : TypeTerm)
  | failure (text : String)
  deriving Inhabited

def MemberDef.size : MemberDef → Nat
  | .field _ type default => type.size + default.elim 0 TypeTerm.size
  | .value _ term => term.size
  | .function f =>
    f.parameters.foldl (fun n p => n + p.type.elim 0 TypeTerm.size) (f.returns.elim 0 TypeTerm.size)

def ClassDefinition.size (c : ClassDefinition) : Nat :=
  c.members.foldl (fun n member => n + member.size) (TypeTerm.sizes c.bases)

def Definition.size : Definition → Nat
  | .cls c => c.size
  | .alias _ type => type.size
  | _ => 1

end HubProxy.ContractModule
