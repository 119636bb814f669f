import HubProxy.Contract.Module.TermReader
import HubProxy.Json.Reader

/-!
# The notation of contract modules

A module file holds its definitions as a JSON array. A definition is an object whose first telling
member says what it defines: an enumeration, a class, a type variable, an alias or a failure. Types
are written as terms in texts, as objects for applied and united types, and as `null` for nothing.
An enumeration is a class with one of the classes of enumerations as its base.
-/

namespace HubProxy.ContractModule

open Json (Value)

def textOf : Value → String
  | .string s => s
  | _ => ""

/-- The text in a value, where there is one. -/
def textIn? : Value → Option String
  | .string s => some s
  | _ => none

def itemsOf : Value → List Value
  | .array items => items
  | _ => []

/-- A member of an object; one that is missing is nothing. -/
def memberOf (v : Value) (name : String) : Value :=
  (v.member? name).getD .null

/-- Whether a value is a truth value that holds. -/
def isTrue : Value → Bool
  | .bool b => b
  | _ => false

def numberOf (literal : String) : Literal :=
  if Json.isWholeLiteral literal then .whole (literal.toInt?.getD 0)
  else .real ((Decimal.read? literal.toList).getD 0)

mutual

def literalOf : Value → Literal
  | .null => .nothing
  | .bool b => .truth b
  | .number literal => numberOf literal
  | .string s => .text s
  | .unpaired => .text "\ufffd"
  | .array items => .list (literalsOf items)
  | .object members => .table (entriesOf members)

def literalsOf : List Value → List Literal
  | [] => []
  | v :: rest => literalOf v :: literalsOf rest

/-- The entries that members stand for; of several with one name the last one counts. -/
def entriesOf : List (String × Value) → List (String × Literal)
  | [] => []
  | (name, v) :: rest =>
    let more := entriesOf rest
    if more.any (·.1 == name) then more else (name, literalOf v) :: more

end

mutual

/-- The term for a written-out value. A number that is too large to be written out is given by the
name of what is larger than all numbers. -/
def valueTerm : Value → TypeTerm
  | .array items => .list (valueTerms items)
  | .number literal =>
    match numberOf literal with
    | .real x => if x.isInf then .name "inf" else .literal (.real x)
    | v => .literal v
  | v => .literal (literalOf v)

def valueTerms : List Value → List TypeTerm
  | [] => []
  | v :: rest => valueTerm v :: valueTerms rest

end

/-- The term in a text. A text without one is a name. -/
def namedTerm (text : String) : TypeTerm :=
  (readTerm? text).getD (.name (Text.normalName text))

/-- The name in a value, in its normal form. -/
def nameOf (v : Value) : String :=
  Text.normalName (textOf v)

mutual

/-- How deep a value is nested. -/
def depthOf : Value → Nat
  | .array items => 1 + depthOfItems items
  | .object members => 1 + depthOfMembers members
  | _ => 1

def depthOfItems : List Value → Nat
  | [] => 0
  | v :: rest => max (depthOf v) (depthOfItems rest)

def depthOfMembers : List (String × Value) → Nat
  | [] => 0
  | (_, v) :: rest => max (depthOf v) (depthOfMembers rest)

end

/-- The members of a union, or the term alone: a union inside another one is written without
brackets. -/
def unionItems : TypeTerm → List TypeTerm
  | .union items => items
  | t => [t]

/-- The type term that a value no deeper than the first argument stands for. -/
def termWithin : Nat → Value → TypeTerm
  | 0, _ => .nothing
  | depth + 1, v =>
    let terms (v : Value) := (itemsOf v).map (termWithin depth)
    match v with
    | .null => .nothing
    | .string s => namedTerm s
    | v =>
      match v.member? "sub", v.member? "union", v.member? "list" with
      | some name, _, _ => .apply (namedTerm (textOf name)) (terms (memberOf v "args"))
      | none, some items, _ => .union ((terms items).flatMap unionItems)
      | none, none, some items => .list (terms items)
      | none, none, none => valueTerm (memberOf v "lit")

def termOf (v : Value) : TypeTerm :=
  termWithin (depthOf v) v

/-- The mark that a value stands for: a name of its own, or the mark alone. -/
def markOf? : Value → Option Mark
  | .bool true => some ⟨none⟩
  | .object members => some ⟨textIn? (memberOf (.object members) "name")⟩
  | _ => none

def parameterOf (v : Value) : FunctionParameter :=
  let isVariadic := ["var", "kw"].contains (textOf (memberOf v "kind"))
  ⟨nameOf (memberOf v "name"), (v.member? "ann").map termOf,
    if isVariadic then .variadic else .single⟩

/-- A function of a class. A mark around a function that is not called with an object is not on the
function itself. -/
def functionOf (v : Value) : FunctionDef :=
  let kind := (v.member? "kind").elim "instance" textOf
  let isOutside := isTrue (memberOf v "mark_outside") && kind != "instance"
  { name := nameOf (memberOf v "name")
    parameters := (itemsOf (memberOf v "params")).map parameterOf
    isBound := kind != "static"
    isAsync := isTrue (memberOf v "async")
    mark := if isOutside then none else markOf? (memberOf v "mark")
    returns := (v.member? "returns").map termOf }

/-- A member of a class: a field, which may have a default, or a function. -/
def classMemberOf : Value → MemberDef
  | .array (name :: type :: more) => .field (nameOf name) (termOf type) (more.head?.map valueTerm)
  | v => .function (functionOf v)

def enumMemberOf (v : Value) : MemberDef :=
  match itemsOf v with
  | [name, value] => .value (nameOf name) (valueTerm value)
  | _ => .value "" .nothing

def enumerationOf (name : String) (v : Value) : ClassDefinition :=
  { name
    bases := [.member (.name "enum") ((v.member? "base").elim "Enum" textOf)]
    members := (itemsOf (memberOf v "members")).map enumMemberOf
    mark := none
    isRecord := false }

def classOf (name : String) (v : Value) : ClassDefinition :=
  { name
    bases := (itemsOf (memberOf v "bases")).map termOf
    members := (itemsOf (memberOf v "members")).map classMemberOf
    mark := markOf? (memberOf v "client_api")
    isRecord := isTrue (memberOf v "dataclass") }

def definitionOf (v : Value) : Definition :=
  match v.member? "enum", v.member? "class", v.member? "typevar", v.member? "alias" with
  | some name, _, _, _ => .cls (enumerationOf (nameOf name) v)
  | none, some name, _, _ => .cls (classOf (nameOf name) v)
  | none, none, some name, _ => .variable (textOf name)
  | none, none, none, some name => .alias (nameOf name) (termOf (memberOf v "value"))
  | none, none, none, none => .failure (textOf (memberOf v "raise"))

/-- The definitions in the text of a module file, or why there are none. -/
def definitionsOf (text : String) : Except String (List Definition) :=
  match Json.parse text with
  | .error (.notJson offset) => .error ("invalid syntax at offset " ++ toString offset)
  | .error .excess => .error "a number or the nesting exceeds its limit"
  | .ok (.array items) => .ok (items.map definitionOf)
  | .ok _ => .error "no list of definitions"

end HubProxy.ContractModule
