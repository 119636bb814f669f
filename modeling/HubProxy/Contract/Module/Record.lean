import HubProxy.Contract.Module.Definition
import HubProxy.Contract.Module.Fault
import HubProxy.Contract.Module.Standard

/-!
# Record classes

The fields of a record class come from those of its bases and from the types in its body. What a
type is for is told from the name that its text starts with: fields of the class itself and the mark
for keywords take no argument of the constructor. An argument with a default is followed by such
arguments only.
-/

namespace HubProxy.ContractModule

structure RecordField where
  /-- Whether the constructor takes it in its place. -/
  isPlaced : Bool
  hasDefault : Bool
  deriving DecidableEq, Repr, Inhabited

/-- What a type in the body of a record class is for. -/
inductive FieldRole where
  | ordinary
  | ofClass
  /-- A field that only the constructor takes. -/
  | initial
  /-- Not a field: the fields after it are given by name only. -/
  | keywordMark
  deriving DecidableEq, Repr

/-- What the text of a type starts with in a home or among the names of a module. -/
def leadingValue? (names : List (String × TypeValue)) (home : String) (type : TypeTerm) :
    Option TypeValue :=
  match type.leadingName? with
  | some (none, name) => names.lookup name
  | some (some owner, name) =>
    match names.lookup owner with
    | some (.module m) => if m = home then homeName? home name else none
    | _ => none
  | none => none

/-- What a type in the body of a record class is for. -/
def fieldRole (names : List (String × TypeValue)) (type : TypeTerm) : FieldRole :=
  match leadingValue? names "typing" type, leadingValue? names "dataclasses" type with
  | some (.form "ClassVar"), _ => .ofClass
  | some (.apply (.form "ClassVar") _), _ => .ofClass
  | _, some .keywordMark => .keywordMark
  | _, some (.initial _) => .initial
  | _, some (.cls c) => if c.home = "dataclasses" then .initial else .ordinary
  | _, _ => .ordinary

/-- Puts a value under a name. A name that is there already keeps its place. -/
def put (entries : List (String × α)) (name : String) (value : α) : List (String × α) :=
  match entries with
  | [] => [(name, value)]
  | (n, v) :: rest => if n = name then (n, value) :: rest else (n, v) :: put rest name value

/-- The fields of the body of a record class. `default?` tells the default of a name, which is no
value if it is a function. -/
def bodyFields (names : List (String × TypeValue)) (default? : String → Option (Option TypeValue)) :
    Bool → List (String × TypeTerm) → Except Fault (List (String × RecordField))
  | _, [] => .ok []
  | afterMark, (name, type) :: rest => do
    let role := fieldRole names type
    if role = .keywordMark then
      if afterMark then throw (.keywordsTwice name)
      bodyFields names default? true rest
    else
      let given := default? name
      let shared := match given with
        | some (some (.list _)) => some "list"
        | some (some (.literal (.table _))) => some "dict"
        | _ => none
      if let some kind := shared then
        if role = .ordinary then throw (.sharedDefault kind name)
      let isPlaced := role != .ofClass && !afterMark
      let field : RecordField := { isPlaced, hasDefault := given.isSome }
      return (name, field) :: (← bodyFields names default? afterMark rest)

/-- The fields of a record class: those of its bases, each list put over the ones before, and those
of its body. -/
def recordFields (inherited : List (List (String × RecordField)))
    (own : List (String × RecordField)) : Except Fault (List (String × RecordField)) := do
  let fields := (inherited ++ [own]).flatten.foldl (fun fields (name, field) =>
    put fields name field) []
  let placed := fields.filter (·.2.isPlaced)
  match (placed.dropWhile fun f => !f.2.hasDefault).find? fun f => !f.2.hasDefault with
  | some (name, _) => throw (.defaultTooEarly name)
  | none => return fields

end HubProxy.ContractModule
