import HubProxy.Contract.Module.Fault
import HubProxy.Contract.Module.TypeValue
import HubProxy.Decimal.Whole
import HubProxy.Text.Digit

/-!
# Enumerations

The body of an enumeration tells its members by their names: names with underscores at both ends are
settings, and names that are private to the class belong to no member. `enumItems` makes the
members. A member with the value of an earlier one is another name for it.
-/

namespace HubProxy.ContractModule

def leadingMarks (cs : List Char) : Nat :=
  (cs.takeWhile (· == '_')).length

/-- Whether a name has the given number of underscores at each end and others between them. -/
def isFramed (marks : Nat) (name : String) : Bool :=
  let cs := name.toList
  2 * marks < cs.length && leadingMarks cs == marks && leadingMarks cs.reverse == marks

/-- Whether a member name is private to a class. -/
def isPrivateTo (className name : String) : Bool :=
  let start := ("_" ++ className ++ "__").toList
  let cs := name.toList
  start.length < cs.length && start.isPrefixOf cs && leadingMarks cs.reverse < 2

/-- The names with an underscore at both ends that an enumeration may set. -/
def enumSettings : List String :=
  ["_order_", "_generate_next_value_", "_numeric_repr_", "_missing_", "_ignore_", "_iter_member_",
    "_iter_member_by_value_", "_iter_member_by_def_"]

/-- The body of an enumeration as far as it was read: everything by its name, the names of the
members, and the names that no member may have. -/
structure EnumBody (α : Type) where
  entries : List (String × α)
  members : List String
  ignored : List String

/-- The items of a value that holds some; a text holds the words between its blanks and commas. -/
def listedItems (v : TypeValue) : Except Fault (List TypeValue) :=
  match v with
  | .literal (.text s) =>
    let words := Text.splitRuns (fun c => Text.isBlank c || c == ',') s.toList
    .ok (words.map fun word => .literal (.text (String.ofList word)))
  | .list items => .ok items
  | .literal (.table entries) => .ok (entries.map fun (key, _) => .literal (.text key))
  | v => .error (.notIterable v.kindName)

def textsIn (vs : List TypeValue) : List String :=
  vs.filterMap fun v =>
    match v with
    | .literal (.text s) => some s
    | _ => none

inductive EnumName where
  | hidden
  | setting
  | member
  deriving DecidableEq, Repr

def enumName (className name : String) : Except Fault EnumName :=
  if isPrivateTo className name then .ok .hidden
  else if isFramed 1 name then
    if enumSettings.contains name then .ok .setting else .error (.reservedMember name)
  else if isFramed 2 name then .ok .hidden
  else .ok .member

/-- Numbers of any kind are read as whole ones. -/
def toWhole (v : TypeValue) : Except Fault TypeValue :=
  match v with
  | .literal (.truth b) => .ok (.literal (.whole (if b then 1 else 0)))
  | .literal (.whole n) => .ok (.literal (.whole n))
  | .literal (.real x) => .ok (.literal (.whole ((Decimal.truncate? x).getD 0)))
  | .literal (.text s) =>
    let cs := Text.numeral s.toList
    let (negative, digits) := match cs with
      | '-' :: rest => (true, rest)
      | '+' :: rest => (false, rest)
      | rest => (false, rest)
    let pieces := digits.splitOn '_'
    if pieces.all fun piece => !piece.isEmpty && piece.all Char.isDigit then
      match Decimal.readWhole? pieces.flatten with
      | some n => .ok (.literal (.whole (if negative then -(n : Int) else n)))
      | none => .error (.longNumeral pieces.flatten.length)
    else .error (.badNumeral s)
  | v => .error (.notANumber v.kindName)

def toReal (v : TypeValue) : Except Fault TypeValue :=
  match v with
  | .literal (.truth b) => .ok (.literal (.real (if b then 1 else 0)))
  | .literal (.whole n) => .ok (.literal (.real (Float.ofInt n)))
  | .literal (.real x) => .ok (.literal (.real x))
  | .literal (.text s) =>
    let pieces := (Text.numeral s.toList).splitOn '_'
    let joins := (pieces.zip (pieces.drop 1)).all fun (before, after) =>
      before.getLast?.any Char.isDigit && after.head?.any Char.isDigit
    match if joins then Decimal.read? pieces.flatten else none with
    | some x => .ok (.literal (.real x))
    | none => .error (.badFraction s)
  | v => .error (.notAFraction v.kindName)

def enumValue (dataType : Option ClassRef) (isText : Bool) (v : TypeValue) :
    Except Fault TypeValue :=
  let shown : String := match v with
    | .literal (.text s) => s
    | v => v.shown
  let isGiven := match v with
    | .literal (.text _) => true
    | _ => false
  if isText && !isGiven then .error (.notAText v.shown)
  else if dataType = some (coreClass "int") then toWhole v
  else if dataType = some (coreClass "float") then toReal v
  else if dataType = some (coreClass "str") then .ok (.literal (.text shown))
  else .ok v

structure EnumEntry where
  item : EnumItem
  value : TypeValue

/-- Whether a number has a single bit. -/
def isSingleBit (v : TypeValue) : Bool :=
  match v with
  | .literal (.whole n) => 0 < n && (n.toNat &&& (n.toNat - 1)) == 0
  | .literal (.truth b) => b
  | _ => false

structure EnumRules where
  owner : ClassRef
  dataType : Option ClassRef
  /-- Whether the members are made of texts only. -/
  isText : Bool
  /-- Whether the members are shown as their values. -/
  showsValue : Bool

/-- The members of an enumeration under all of their names. -/
def enumItems (rules : EnumRules) (members : List (String × TypeValue)) :
    Except Fault (List (String × EnumEntry)) :=
  members.foldlM (fun made (name, given) => do
    let value ← enumValue rules.dataType rules.isText given
    match made.find? fun (_, entry) => entry.value.same value with
    | some (_, entry) => return made ++ [(name, entry)]
    | none =>
      let text :=
        if !rules.showsValue then rules.owner.name ++ "." ++ name
        else match value with
          | .literal (.text s) => s
          | v => v.shown
      let written := match value with
        | .literal (.text s) => if rules.dataType = some (coreClass "str") then some s else none
        | _ => none
      return made ++ [(name, ⟨⟨rules.owner, name, value.shown, text, written⟩, value⟩)]) []

/-- The names of the members that an enumeration lists: each under its first name, and of those that
can be put together only those with a single bit. -/
def listedNames (rules : EnumRules) (made : List (String × EnumEntry)) : List String :=
  (made.filter fun (name, entry) =>
    entry.item.name == name && (rules.owner.kind != .flags || isSingleBit entry.value)).map (·.1)

/-- Refuses an enumeration whose members are not in the order that its body asks for. -/
def checkOrder (rules : EnumRules) (made : List (String × EnumEntry)) (order : TypeValue) :
    Except Fault Unit := do
  let isEmpty := match order with
    | .list items => items.isEmpty
    | .literal v => !v.isSomething
    | _ => false
  if isEmpty then return
  let names := listedNames rules made
  let asked := (← listedItems order).filter fun v =>
    match v with
    | .literal (.text s) => names.contains s || (made.lookup s).isNone
    | _ => true
  let actual := names.map fun name => TypeValue.literal (.text name)
  unless TypeValue.sameList asked actual do
    throw (.memberOrder (TypeValue.list actual).shown (TypeValue.list asked).shown)

end HubProxy.ContractModule
