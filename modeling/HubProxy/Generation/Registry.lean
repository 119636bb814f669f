import HubProxy.Code.Model
import HubProxy.Generation.Error

/-!
# Registry of declared types

A registry tracks, during one generation, which type names exist already, which are reserved for a
class still being expanded, and which have been declared. Its operations can fail and still change
it, so they run in `RegistryM`, where the registry outlives an error.
-/

namespace HubProxy

/-- The names known to one generation and what it has produced so far. -/
structure Registry where
  existing : List String
  reserved : List (String × Descriptor)
  declared : List (String × Descriptor)
  declarations : List TypeDeclaration
  imports : List String
  deriving Inhabited

abbrev RegistryM := ExceptT BuildError (StateM Registry)

namespace Registry

/-- The registry of a generation that starts from existing names. -/
def ofExisting (names : List String) : Registry :=
  ⟨names.eraseDups, [], [], [], []⟩

def isReserved (r : Registry) (name : String) : Bool :=
  (r.reserved.lookup name).isSome

def isDeclared (r : Registry) (name : String) : Bool :=
  (r.declared.lookup name).isSome

/-- Whether a name is existing, reserved or declared. -/
def contains (r : Registry) (name : String) : Bool :=
  r.existing.contains name || r.isReserved name || r.isDeclared name

def size (r : Registry) : Nat :=
  (r.existing ++ r.reserved.map (·.1) ++ r.declared.map (·.1)).eraseDups.length

/-- The types declared so far, in order. -/
def declaredTypes (r : Registry) : List Descriptor :=
  r.declared.map (·.2)

end Registry

/-- A value that must be there. -/
def named (value : Option α) : RegistryM α :=
  match value with
  | some v => pure v
  | none => throw .nameless

def sameShape (classes : ClassTable) (a b : Descriptor) : RegistryM Bool := do
  let shapeA ← named (a.shape? classes)
  let shapeB ← named (b.shape? classes)
  return shapeA == shapeB

/-- Claims the name of a type before its members are expanded. -/
def reserve (classes : ClassTable) (d : Descriptor) : RegistryM Unit := do
  let name ← named (d.name? classes)
  if (← get).contains name then throw (.duplicateDeclaration name)
  modify fun r => { r with reserved := (name, d) :: r.reserved }

/-- Records a new type and, for a class or an enumeration, its declaration. A reservation of its
name ends, and must have been made for a type of the same shape. -/
def declare (classes : ClassTable) (d : Descriptor) (declaration : Option TypeDeclaration) :
    RegistryM Unit := do
  let name ← named (d.name? classes)
  let before ← get
  if before.existing.contains name || before.isDeclared name then
    throw (.duplicateDeclaration name)
  -- the reservation ends even if the shapes turn out to differ
  set { before with reserved := before.reserved.filter (·.1 != name) }
  match before.reserved.lookup name with
  | some known => unless (← sameShape classes known d) do throw (.typeConflict name)
  | none => pure ()
  modify fun r => { r with
    declared := r.declared ++ [(name, d)]
    declarations := r.declarations ++ declaration.toList }

/-- Fails if another type of a different shape has been declared or reserved under the name. -/
def checkConsistent (classes : ClassTable) (d : Descriptor) : RegistryM Unit := do
  let name ← named (d.name? classes)
  let r ← get
  match r.declared.lookup name <|> r.reserved.lookup name with
  | none => pure ()
  | some known =>
    unless known = d do
      unless (← sameShape classes known d) do throw (.typeConflict name)

/-- Adds a namespace to the imports, once. -/
def requireImport (ns : Option String) : RegistryM Unit :=
  match ns with
  | none | some "" => pure ()
  | some ns => modify fun r =>
      if r.imports.contains ns then r else { r with imports := r.imports ++ [ns] }

end HubProxy
