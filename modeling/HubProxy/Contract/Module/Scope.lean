import HubProxy.Contract.Module.Apply
import HubProxy.Contract.Module.Standard

/-!
# Looking up and evaluating type terms

A term is evaluated in a scope: the names of the module, then those of the class that the term
stands in, then the names of the core. Terms inside texts are looked up in a second step, which
leaves alone a text that leads back to itself.
-/

namespace HubProxy.ContractModule

/-- Where a term is evaluated. -/
structure Scope where
  names : List (String × TypeValue)
  attributes : List (String × TypeValue)
  viewOf : Nat → Option ClassView

def Scope.lookup (s : Scope) (name : String) : Except Fault TypeValue :=
  (((s.names.lookup name).or (s.attributes.lookup name)).or (coreName? name)).elim
    (.error (.undefinedName name)) .ok

def Scope.classMember (s : Scope) (c : ClassRef) (name : String) : Except Fault TypeValue :=
  match (c.own.bind s.viewOf).bind fun view => view.members.lookup name with
  | some v => .ok v
  | none =>
    if c.kind.isEnumeration then .error (.missing name)
    else .error (.undefinedMember ("type object '" ++ c.tag ++ "'") name)

/-- What a value holds under a name. A type that was applied holds what its class does. -/
def Scope.memberOf (s : Scope) (name : String) : TypeValue → Except Fault TypeValue
  | .module home =>
    (homeName? home name).elim (.error (.undefinedMember ("module '" ++ home ++ "'") name)) .ok
  | .cls c => s.classMember c name
  | .alias a => s.classMember a.origin name
  | .apply (.form _) _ => .error (.missing name)
  | .apply head _ => s.classMember head.origin name
  | .form _ => .error (.missing name)
  | .union _ => .error (.missing name)
  | .remarked type _ => s.memberOf name type
  | v => .error (.undefinedMember ("'" ++ v.kindName ++ "' object") name)

mutual

/-- What a term stands for, terms inside texts apart. -/
def Scope.evaluate (s : Scope) : TypeTerm → Except Fault TypeValue
  | .nothing => .ok .nothing
  | .name text => s.lookup text
  | .member owner field => do s.memberOf field (← s.evaluate owner)
  | .ellipsis => .ok .ellipsis
  | .literal v => .ok (.ofLiteral v)
  | .apply head arguments => do
    let head ← s.evaluate head
    head.applied s.viewOf (← s.evaluateAll arguments)
  | .union items => s.evaluateUnion none items
  | .list items => do return .list (← s.evaluateAll items)
  | .tuple items => do return .tuple (← s.evaluateAll items)

def Scope.evaluateAll (s : Scope) : List TypeTerm → Except Fault (List TypeValue)
  | [] => .ok []
  | t :: rest => do
    let v ← s.evaluate t
    return v :: (← s.evaluateAll rest)

/-- What the union operator makes of terms, each of them evaluated when its turn comes. -/
def Scope.evaluateUnion (s : Scope) : Option TypeValue → List TypeTerm → Except Fault TypeValue
  | left, [] => .ok (left.getD .nothing)
  | none, t :: rest => do s.evaluateUnion (some (← s.evaluate t)) rest
  | some left, t :: rest => do s.evaluateUnion (some (← eitherOf left (← s.evaluate t))) rest

end

/-- Looks up the terms inside the texts of a value. The first argument bounds the depth, `around`
holds the texts on the way to the value. -/
def Scope.settle (s : Scope) (atField : Bool) :
    Nat → List String → TypeValue → Except Fault TypeValue
  | 0, _, v => .ok v
  | depth + 1, around, v =>
    match v with
    | .forward text =>
      if around.contains text then .ok v
      else do
        let found ← s.evaluate ((readTerm? text).getD (.name text))
        let type ← found.checkedFor "Forward references must evaluate to types." atField
        s.settle atField depth (text :: around) type
    | .apply head arguments => do
      let settled ← arguments.mapM fun argument => do
        match head, argument with
        | .plain _, .literal (.text _) => s.settle false depth around (← argument.asType)
        | _, _ => s.settle false depth around argument
      return .apply head settled
    | .union members => do unionOf (← members.mapM (s.settle false depth around))
    | .either members => do eitherOfAll (← members.mapM (s.settle false depth around))
    | .remarked type remarks => do remarkedOf (← s.settle false depth around type) remarks
    | v => .ok v

mutual

/-- A value without remarks on types. -/
def TypeValue.withoutRemarks : TypeValue → Except Fault TypeValue
  | .remarked type _ => type.withoutRemarks
  | .apply head arguments => do return .apply head (← TypeValue.allWithoutRemarks arguments)
  | .union members => do unionOf (← TypeValue.allWithoutRemarks members)
  | .either members => do return plainUnionOf (← TypeValue.allWithoutRemarks members)
  | v => .ok v

/-- Several values without remarks on types. -/
def TypeValue.allWithoutRemarks : List TypeValue → Except Fault (List TypeValue)
  | [] => .ok []
  | v :: rest => do
    let first ← v.withoutRemarks
    return first :: (← TypeValue.allWithoutRemarks rest)

end

/-- The type that a term stands for at a field of a class or elsewhere. -/
def Scope.resolve (s : Scope) (depth : Nat) (atField : Bool) (t : TypeTerm) :
    Except Fault TypeValue := do
  let type ← (← s.evaluate t).checkedFor "Forward references must evaluate to types." atField
  (← s.settle atField depth [t.text] type).withoutRemarks

end HubProxy.ContractModule
