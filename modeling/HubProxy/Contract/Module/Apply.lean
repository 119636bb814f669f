import HubProxy.Contract.Module.Fault
import HubProxy.Contract.Module.Standard
import HubProxy.Contract.Module.TermReader

/-!
# Applying types

How types are put together: which values may stand for a type, what a type form, a generic type or a
class makes of its arguments, and what a union of types is. The members of a union given by its form
are compared by looking them up, so all of them must be such that this can be done.
-/

namespace HubProxy.ContractModule

/-- The classes that make other classes generic. -/
def isGenericMaker (c : ClassRef) : Bool :=
  c == formClass "Generic" || c == formClass "Protocol"

/-- The forms that stand for a type without any arguments. -/
def plainForms : List String := ["NoReturn", "Never", "Self", "LiteralString", "TypeAlias"]

/-- The forms that are allowed only at a field of a class. -/
def fieldForms : List String := ["ClassVar", "Final"]

/-- Nothing stands for its class, and a text for the term in it, to be looked up later. -/
def TypeValue.asType : TypeValue → Except Fault TypeValue
  | .literal .nothing => .ok (.cls nothingClass)
  | .literal (.text s) =>
    if (readTerm? s).isSome then .ok (.forward s) else .error (.notAnExpression (Text.quoted s))
  | .item i =>
    match i.written with
    | none => .ok (.item i)
    | some s =>
      if (readTerm? s).isSome then .ok (.forward s)
      else .error (.notAnExpression (TypeValue.item i).shown)
  | v => .ok v

/-- The value as a type, if it may stand for one where `reason` tells what is needed. More is
allowed at a field than elsewhere. -/
def TypeValue.checkedFor (reason : String) (atField : Bool) (v : TypeValue) :
    Except Fault TypeValue := do
  let v ← v.asType
  match v with
  | .apply (.generic c) _ => if isGenericMaker c then throw (.notAnArgument v.shown) else return v
  | .apply (.form name) _ =>
    if !atField && fieldForms.contains name then throw (.notAnArgument v.shown) else return v
  | .remarked (.form name) _ =>
    if !atField && fieldForms.contains name then throw (.notAnArgument v.shown) else return v
  | .form name =>
    if plainForms.contains name || (atField && fieldForms.contains name) then return v
    else throw (.plainForm v.shown)
  | .cls c => if isGenericMaker c then throw (.plainForm v.shown) else return v
  | .tuple _ => throw (.severalArguments reason v.shown)
  | _ => return v

/-- The value as a type, if it may stand for one. -/
def TypeValue.checked (v : TypeValue) : Except Fault TypeValue :=
  v.checkedFor "Parameters to generic types must be types." false

/-- The members of unions in a list in place of the unions. -/
def flattened (vs : List TypeValue) : List TypeValue :=
  vs.flatMap fun v =>
    match v with
    | .union members => members
    | .either members => members
    | v => [v]

/-- A list without the types that occur in it before. -/
def distinct (vs : List TypeValue) : List TypeValue :=
  vs.foldl (fun seen v => if TypeValue.among v seen then seen else seen ++ [v]) []

/-- The union of types. A union of one type is that type. -/
def unionOf (vs : List TypeValue) : Except Fault TypeValue :=
  let flat := flattened vs
  match TypeValue.firstUnhashable? flat with
  | some kind => .error (.unhashable kind)
  | none =>
    match distinct flat with
    | [v] => .ok v
    | members => .ok (.union members)

def plainUnionOf (vs : List TypeValue) : TypeValue :=
  match distinct (flattened vs) with
  | [v] => v
  | members => .either members

/-- Whether a value brings the union form to the union operator. -/
def TypeValue.makesUnion : TypeValue → Bool
  | .variable .. => true
  | .form _ => true
  | .alias _ => true
  | .union _ => true
  | .forward _ => true
  | .remarked .. => true
  | .apply (.plain _) _ => false
  | .apply _ _ => true
  | _ => false

/-- Whether a value is a plain type for the union operator. -/
def TypeValue.isPlain : TypeValue → Bool
  | .cls _ => true
  | .literal .nothing => true
  | .either _ => true
  | .apply (.plain _) _ => true
  | _ => false

/-- The bits of two whole numbers together, where a number below zero has infinitely many. -/
def bitUnion (m n : Int) : Int :=
  let rest (n : Int) : Nat := (-n - 1).toNat
  match decide (0 ≤ m), decide (0 ≤ n) with
  | true, true => ((m.toNat ||| n.toNat : Nat) : Int)
  | true, false => -((rest n - (rest n &&& m.toNat) : Nat) : Int) - 1
  | false, true => -((rest m - (rest m &&& n.toNat) : Nat) : Int) - 1
  | false, false => -((rest m &&& rest n : Nat) : Int) - 1

/-- The entries of a table with those of another one in their places or behind them. -/
def mergeEntries (entries more : List (String × Literal)) : List (String × Literal) :=
  entries.map (fun (key, v) => (key, (more.lookup key).getD v))
    ++ more.filter fun (key, _) => (entries.lookup key).isNone

/-- What the union operator makes of two written-out values that it puts together. -/
def combined? : Literal → Literal → Option Literal
  | .truth a, .truth b => some (.truth (a || b))
  | .table a, .table b => some (.table (mergeEntries a b))
  | a, b =>
    let whole? : Literal → Option Int
      | .truth t => some (if t then 1 else 0)
      | .whole n => some n
      | _ => none
    do return .whole (bitUnion (← whole? a) (← whole? b))

/-- What the union operator makes of two values. -/
def eitherOf (left right : TypeValue) : Except Fault TypeValue :=
  if left.makesUnion || right.makesUnion then do
    let reason := "Union[arg, ...]: each arg must be a type."
    unionOf [← left.checkedFor reason false, ← right.checkedFor reason false]
  else
    let refused := Fault.noUnion left.kindName right.kindName
    match left, right with
    | .literal .nothing, .literal .nothing => .error refused
    | .literal a, .literal b => ((combined? a b).map TypeValue.literal).elim (.error refused) .ok
    | _, _ =>
      if left.isPlain && right.isPlain then do
        return plainUnionOf [← left.asType, ← right.asType]
      else .error refused

/-- What the union operator makes of several values, from left to right. -/
def eitherOfAll : List TypeValue → Except Fault TypeValue
  | [] => .ok .nothing
  | first :: rest => rest.foldlM eitherOf first

/-- The values in a list, given by its items or as a literal. -/
def TypeValue.items? : TypeValue → Option (List TypeValue)
  | .list items => some items
  | .tuple items => some items
  | _ => none

mutual

/-- The type variables in a value, each where it first occurs. -/
def TypeValue.typeVariables : TypeValue → List (String × Nat)
  | .variable name id => [(name, id)]
  | .apply (.form "Literal") _ => []
  | .apply _ arguments => variablesOf arguments
  | .union members => variablesOf members
  | .either members => variablesOf members
  | .remarked type _ => type.typeVariables
  | _ => []

def TypeValue.variablesOf : List TypeValue → List (String × Nat)
  | [] => []
  | v :: rest =>
    let first := v.typeVariables
    first ++ (variablesOf rest).filter fun x => !first.contains x

end

/-- A type with remarks on it. A display, a plain literal or a dot mark bears none. -/
def remarkedOf (v : TypeValue) (remarks : List TypeValue) : Except Fault TypeValue :=
  let refused := Fault.undefinedMember ("'" ++ v.kindName ++ "' object") "__module__"
  match v with
  | .list _ => .error refused
  | .literal _ => .error refused
  | .ellipsis => .error refused
  | .item i => if i.owner.own.isSome then .ok (.remarked v remarks) else .error refused
  | .module name => .error (.undefinedMember ("module '" ++ name ++ "'") "__module__")
  | .remarked type before => .ok (.remarked type (before ++ remarks))
  | v => .ok (.remarked v remarks)

mutual

/-- A value with types in place of type variables. -/
def TypeValue.replace (given : List (Nat × TypeValue)) : TypeValue → Except Fault TypeValue
  | .variable name id => .ok ((given.lookup id).getD (.variable name id))
  | .apply head arguments => do return .apply head (← TypeValue.replaceAll given arguments)
  | .union members => do unionOf (← TypeValue.replaceAll given members)
  | .either members => do return plainUnionOf (← TypeValue.replaceAll given members)
  | .remarked type remarks => do remarkedOf (← type.replace given) remarks
  | v => .ok v

def TypeValue.replaceAll (given : List (Nat × TypeValue)) :
    List TypeValue → Except Fault (List TypeValue)
  | [] => .ok []
  | v :: rest => do
    let first ← v.replace given
    return first :: (← TypeValue.replaceAll given rest)

end

/-- The values in the arguments of the literal form, each once if they can be looked up. -/
def literalsIn (arguments : List TypeValue) : List TypeValue :=
  let flat := arguments.flatMap fun v =>
    match v with
    | .apply (.form "Literal") inner => inner
    | v => [v]
  if (TypeValue.firstUnhashable? flat).isSome then flat
  else
    flat.foldl (fun seen v => if TypeValue.written v seen then seen else seen ++ [v]) []

def applyForm (name : String) (arguments : List TypeValue) : Except Fault TypeValue := do
  let shown := "typing." ++ name
  let listed := (TypeValue.tuple arguments).shown
  if name = "Union" then
    if arguments.isEmpty then throw .emptyUnion
    let reason := "Union[arg, ...]: each arg must be a type."
    unionOf (← arguments.mapM (TypeValue.checkedFor reason false))
  else if name = "Literal" then
    return .apply (.form name) (literalsIn arguments)
  else if name = "Optional" then
    let reason := shown ++ " requires a single type."
    match arguments with
    | [v] => unionOf [← v.checkedFor reason false, .cls nothingClass]
    | _ => throw (.severalArguments reason listed)
  else if fieldForms.contains name || name = "TypeGuard" then
    let reason := shown ++ " accepts only single type."
    match arguments with
    | [v] => return .apply (.form name) [← v.checkedFor reason false]
    | _ => throw (.severalArguments reason listed)
  else throw (.notApplicable shown)

def applyAlias (a : Alias) (arguments : List TypeValue) : Except Fault TypeValue := do
  if a.origin = functionClass then
    match arguments with
    | [parameters, result] =>
      let result ← result.checkedFor "Callable[args, result]: result must be a type." false
      match parameters with
      | .list items => return .apply (.alias a) ((← items.mapM TypeValue.asType) ++ [result])
      | v => return .apply (.alias a) [← v.asType, result]
    | _ => throw .functionShape
  if a.origin = coreClass "tuple" then
    match arguments.getLast? with
    | some .ellipsis =>
      if 2 ≤ arguments.length then
        let items ← arguments.dropLast.mapM TypeValue.checked
        return .apply (.alias a) (items ++ [.ellipsis])
    | _ => pure ()
  let checked ← arguments.mapM TypeValue.checked
  match a.arity with
  | some 0 => throw (.notGeneric ("typing." ++ a.name))
  | some n =>
    if n ≠ checked.length then throw (.argumentCount ("typing." ++ a.name) checked.length n)
  | none => pure ()
  return .apply (.alias a) checked

def applyFunction (c : ClassRef) (arguments : List TypeValue) : Except Fault TypeValue :=
  match arguments with
  | [parameters, result] =>
    match parameters, parameters.items? with
    | _, some items => .ok (.apply (.plain c) (items ++ [result]))
    | .ellipsis, none => .ok (.apply (.plain c) arguments)
    | .literal (.text s), none => .error (.noParameters s)
    | .item i, none => .error (.noParameters i.text)
    | v, none => .error (.noParameters v.shown)
  | _ => .error .functionShape

/-- What is known of a class of the module: its type variables if it is generic, what it holds under
names, and its ancestors. -/
structure ClassView where
  typeVariables : Option Nat
  members : List (String × TypeValue)
  ancestors : List ClassRef

/-- The entry of a list at a place, which counts from the end if it is below zero. -/
def entryAt? (items : List α) (place : Int) : Option α :=
  items[(if place < 0 then place + items.length else place).toNat]?.filter fun _ =>
    -(items.length : Int) ≤ place

/-- What a list or the characters of a text hold at a place. -/
def placed (reason owner : String) (quote : Bool) (items : List TypeValue)
    (arguments : List TypeValue) : Except Fault TypeValue :=
  let at? (place : Int) : Except Fault TypeValue :=
    ((entryAt? items place).elim (.error (.outOfRange owner)) .ok)
  match arguments with
  | [.literal (.whole n)] => at? n
  | [.literal (.truth b)] => at? (if b then 1 else 0)
  | _ =>
    let kind := match arguments with
      | [v] => v.kindName
      | _ => "tuple"
    .error (.badIndex reason (if quote then "'" ++ kind ++ "'" else kind))

/-- The key that arguments are for looking something up, if it can be looked up by. -/
def keyOf (arguments : List TypeValue) : Except Fault TypeValue :=
  let key := match arguments with
    | [v] => v
    | _ => .tuple arguments
  key.unhashable?.elim (.ok key) fun kind => .error (.unhashable kind)

def applyLiteral (v : Literal) (arguments : List TypeValue) : Except Fault TypeValue :=
  match v with
  | .text s =>
    placed "string indices must be integers" "string" true
      (s.toList.map fun c => .literal (.text (String.singleton c))) arguments
  | .table entries => do
    let key ← keyOf arguments
    match key with
    | .literal (.text s) =>
      match entries.lookup s with
      | some found => return .ofLiteral found
      | none => throw (.missing key.shown)
    | _ => throw (.missing key.shown)
  | v => .error (.notApplicable ("'" ++ v.kindName ++ "' object"))

/-- The member of an enumeration that arguments name. -/
def applyEnumeration (view : ClassView) (arguments : List TypeValue) : Except Fault TypeValue := do
  let key ← keyOf arguments
  let found := match key with
    | .literal (.text s) => view.members.lookup s
    | _ => none
  match found with
  | some (.item i) => return .item i
  | _ => throw (.missing key.shown)

/-- What a class makes of its arguments. A class of the module takes as many as it has type
variables. -/
def applyClass (c : ClassRef) (view : Option ClassView) (arguments : List TypeValue) :
    Except Fault TypeValue := do
  let refused := Fault.notApplicable ("type '" ++ c.tag ++ "'")
  if isGenericMaker c then
    let typeVariables := TypeValue.variablesOf arguments
    if arguments.isEmpty then throw (.noArguments c.name)
    let types ← arguments.mapM TypeValue.asType
    if !types.all TypeValue.isVariable then throw (.notVariables c.name)
    if typeVariables.length ≠ arguments.length then throw (.variablesRepeated c.name)
    return .apply (.generic c) arguments
  if c = formClass "Annotated" then
    match arguments with
    | type :: remark :: more =>
      return ← remarkedOf (← type.checkedFor "Annotated[t, ...]: t must be a type." true)
        (remark :: more)
    | _ => throw .remarkMissing
  if c = coreClass "type" then return .apply (.plain c) arguments
  if c.kind.isEnumeration then
    return ← applyEnumeration (view.getD ⟨none, [], []⟩) arguments
  let ancestors := view.elim (standardOrder 8 c) (·.ancestors)
  let gives (a : ClassRef) : Bool :=
    givesArguments a || a == formClass "Generic" || a.home == "dataclasses"
  match ancestors.find? gives with
  | none => throw refused
  | some giver =>
    if giver.home = "dataclasses" then
      match arguments with
      | [type] => return .initial type
      | _ => return .initial (.tuple arguments)
    else if giver = functionClass then applyFunction c arguments
    else if giver ≠ formClass "Generic" then return .apply (.plain c) arguments
    else
      let arguments ← arguments.mapM TypeValue.asType
      let count := (view.bind (·.typeVariables)).getD 0
      if count = 0 then throw (.notGeneric c.shown)
      if count ≠ arguments.length then throw (.argumentCount c.shown arguments.length count)
      return .apply (.generic c) arguments

/-- What a value makes of arguments. A type that was applied already takes arguments for the type
variables in it. -/
def TypeValue.applied (v : TypeValue) (viewOf : Nat → Option ClassView)
    (arguments : List TypeValue) : Except Fault TypeValue :=
  let generic : Except Fault TypeValue := do
    let typeVariables := v.typeVariables
    if typeVariables.isEmpty then throw (.notGeneric v.shown)
    else if typeVariables.length ≠ arguments.length then
      throw (.argumentCount v.shown arguments.length typeVariables.length)
    else v.replace ((typeVariables.map (·.2)).zip (← arguments.mapM TypeValue.checked))
  match v with
  | .cls c => applyClass c (c.own.bind viewOf) arguments
  | .form name => applyForm name arguments
  | .alias a => applyAlias a arguments
  | .apply (.generic c) _ =>
    if isGenericMaker c then .error (.appliedBefore v.shown) else generic
  | .apply _ _ => generic
  | .union _ => generic
  | .either _ => generic
  | .remarked .. => generic
  | .literal written => applyLiteral written arguments
  | .list items =>
    placed "list indices must be integers or slices" "list" false items arguments
  | .tuple items =>
    placed "tuple indices must be integers or slices" "tuple" false items arguments
  | .variable .. => .error (.notApplicable "'TypeVar' object")
  | v => .error (.notApplicable ("'" ++ v.kindName ++ "' object"))

end HubProxy.ContractModule
