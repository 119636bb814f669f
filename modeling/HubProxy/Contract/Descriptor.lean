/-!
# Type descriptors

A contract describes the types of its parameters by descriptors. Classes may refer to each other and
to themselves, so a descriptor names a class by its identity and a `ClassTable` holds what the
classes are; two classes of equal content are still two classes. Every other descriptor is a plain
tree.
-/

namespace HubProxy

/-- The identity of a class: its place in the table. -/
abbrev ClassId := Nat

inductive Descriptor where
  /-- A type built into the target language or its framework, with the namespace it needs. -/
  | primitive (name : String) (ns : Option String)
  | array (element : Descriptor)
  | enum (name : String) (members : List String)
  /-- A type with arguments, which no proxy can express. -/
  | generic (name : String) (arguments : List Descriptor)
  | cls (id : ClassId)
  /-- Something that is no type of a contract. It has an identity but no name. -/
  | unknown (id : Nat)
  deriving Inhabited

mutual

def Descriptor.decEq : (a b : Descriptor) → Decidable (a = b)
  | .primitive n s, .primitive m t =>
    if h : n = m ∧ s = t then isTrue (by rw [h.1, h.2])
    else isFalse (by rintro ⟨⟩; exact h ⟨rfl, rfl⟩)
  | .array a, .array b =>
    match Descriptor.decEq a b with
    | isTrue h => isTrue (by rw [h])
    | isFalse h => isFalse (by rintro ⟨⟩; exact h rfl)
  | .enum n s, .enum m t =>
    if h : n = m ∧ s = t then isTrue (by rw [h.1, h.2])
    else isFalse (by rintro ⟨⟩; exact h ⟨rfl, rfl⟩)
  | .generic n s, .generic m t =>
    if hn : n = m then
      match Descriptor.decEqList s t with
      | isTrue h => isTrue (by rw [hn, h])
      | isFalse h => isFalse (by rintro ⟨⟩; exact h rfl)
    else isFalse (by rintro ⟨⟩; exact hn rfl)
  | .cls i, .cls j =>
    if h : i = j then isTrue (by rw [h]) else isFalse (by rintro ⟨⟩; exact h rfl)
  | .unknown i, .unknown j =>
    if h : i = j then isTrue (by rw [h]) else isFalse (by rintro ⟨⟩; exact h rfl)
  | .primitive .., .array _ | .primitive .., .enum .. | .primitive .., .generic ..
  | .primitive .., .cls _ | .primitive .., .unknown _
  | .array _, .primitive .. | .array _, .enum .. | .array _, .generic ..
  | .array _, .cls _ | .array _, .unknown _
  | .enum .., .primitive .. | .enum .., .array _ | .enum .., .generic ..
  | .enum .., .cls _ | .enum .., .unknown _
  | .generic .., .primitive .. | .generic .., .array _ | .generic .., .enum ..
  | .generic .., .cls _ | .generic .., .unknown _
  | .cls _, .primitive .. | .cls _, .array _ | .cls _, .enum ..
  | .cls _, .generic .. | .cls _, .unknown _
  | .unknown _, .primitive .. | .unknown _, .array _ | .unknown _, .enum ..
  | .unknown _, .generic .. | .unknown _, .cls _ => isFalse (by rintro ⟨⟩)

def Descriptor.decEqList : (s t : List Descriptor) → Decidable (s = t)
  | [], [] => isTrue rfl
  | [], _ :: _ | _ :: _, [] => isFalse (by rintro ⟨⟩)
  | a :: s, b :: t =>
    match Descriptor.decEq a b, Descriptor.decEqList s t with
    | isTrue h, isTrue k => isTrue (by rw [h, k])
    | isFalse h, _ => isFalse (by rintro ⟨⟩; exact h rfl)
    | _, isFalse k => isFalse (by rintro ⟨⟩; exact k rfl)

end

instance : DecidableEq Descriptor := Descriptor.decEq

/-- A class or an interface with its properties in order. -/
structure ClassDef where
  name : String
  properties : List (String × Descriptor)
  isInterface : Bool
  deriving Inhabited

abbrev ClassTable := Array ClassDef

/-- The connection context, which the host passes to callbacks by itself. -/
def connectionContext : Descriptor :=
  .primitive "IClientProxy" (some "Microsoft.AspNetCore.SignalR")

/-- The name of a type. An array has the name of its element with a pair of brackets. -/
def Descriptor.name? (classes : ClassTable) : Descriptor → Option String
  | .primitive name _ => some name
  | .array element => (element.name? classes).map (· ++ "[]")
  | .enum name _ => some name
  | .generic name _ => some name
  | .cls id => classes[id]?.map (·.name)
  | .unknown _ => none

/-- The type that an array holds in the end, at whatever rank. -/
def Descriptor.innermost : Descriptor → Descriptor
  | .array element => element.innermost
  | d => d

/-- Whether the type is primitive, or an array of primitives of any rank. -/
def Descriptor.isBuiltin (d : Descriptor) : Bool :=
  match d.innermost with
  | .primitive .. => true
  | _ => false

mutual

def Descriptor.label? (classes : ClassTable) : Descriptor → Option String
  | .generic name arguments => do
    let inner ← labels? classes arguments
    return name ++ "<" ++ ", ".intercalate inner ++ ">"
  | .array element => (Descriptor.array element).name? classes
  | .primitive name _ => some name
  | .enum name _ => some name
  | .cls id => classes[id]?.map (·.name)
  | .unknown _ => none

/-- The labels of several types, if all have one. -/
def Descriptor.labels? (classes : ClassTable) : List Descriptor → Option (List String)
  | [] => some []
  | d :: rest => do
    let label ← d.label? classes
    let more ← labels? classes rest
    return label :: more

end

mutual

/-- The text by which a message refers to a type, whether or not it has a name. -/
def Descriptor.display (classes : ClassTable) : Descriptor → String
  | .generic name arguments => name ++ "<" ++ ", ".intercalate (displays classes arguments) ++ ">"
  | .array element => ((Descriptor.array element).name? classes).getD "ArrayType"
  | .primitive name _ => name
  | .enum name _ => name
  | .cls id => (classes[id]?.map (·.name)).getD "object"
  | .unknown _ => "object"

def Descriptor.displays (classes : ClassTable) : List Descriptor → List String
  | [] => []
  | d :: rest => d.display classes :: displays classes rest

end

/-- What two declarations under one name must share: the kind, the name and the members, those of
a class with the labels of their types. -/
inductive Shape where
  | cls (isInterface : Bool) (name : String) (members : List (String × String))
  | enum (name : String) (members : List String)
  | reference (label : String)
  deriving DecidableEq, Repr

/-- The shape of a type, unless a type in it has no name. -/
def Descriptor.shape? (classes : ClassTable) : Descriptor → Option Shape
  | .cls id => do
    let c ← classes[id]?
    let members ← c.properties.mapM fun (name, d) => (d.label? classes).map (name, ·)
    return .cls c.isInterface c.name members
  | .enum name members => some (.enum name members)
  | .primitive name _ => some (.reference name)
  | .array element => ((Descriptor.array element).label? classes).map .reference
  | .generic name arguments => ((Descriptor.generic name arguments).label? classes).map .reference
  | .unknown _ => none

end HubProxy
