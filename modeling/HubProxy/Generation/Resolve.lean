import HubProxy.Generation.Registry
import HubProxy.Text.Casing

/-!
# Resolving types

Resolving a descriptor gives the reference by which the proxy mentions the type, and declares the
types that the registry does not know yet. A class is reserved while its properties are resolved, so
a class that leads back to itself is met as a known name; a declaration follows everything that it
depends on, cycles apart.
-/

namespace HubProxy

/-- A property with its private backing field. -/
def buildProperty (name : String) (type : TypeReference) (visibility : String) :
    Except BuildError PropertyDeclaration :=
  if name = "" then .error .emptyPropertyName
  else .ok {
    name := Text.firstUpper name
    type
    visibility
    field := ⟨"_" ++ Text.firstLower name, type, "private"⟩
    hasGet := true
    hasSet := true }

/-- The reference to a type, `expand` dealing with classes. -/
def resolveWith (classes : ClassTable) (expand : ClassId → ClassDef → RegistryM TypeReference) :
    Descriptor → RegistryM TypeReference
  | .primitive name ns => do
    requireImport ns
    return .named name
  | .array element => do
    let reference := TypeReference.arrayOf (← resolveWith classes expand element)
    unless element.isBuiltin || (← get).contains reference.name do
      declare classes (.array element) none
    return reference
  | .enum name members => do
    if (← get).contains name then checkConsistent classes (.enum name members)
    else declare classes (.enum name members) (some (.enum ⟨name, members, "public"⟩))
    return .named name
  | .generic name arguments =>
    throw (.genericType ((Descriptor.generic name arguments).display classes))
  | .cls id =>
    match classes[id]? with
    | some c => expand id c
    | none => throw (.unknownKind ((Descriptor.cls id).display classes))
  | .unknown id => throw (.unknownKind ((Descriptor.unknown id).display classes))

/-- The reference to a class. An unknown class is expanded: its properties are resolved, then it is
declared. The first argument bounds how many classes can be expanded inside each other; since every
one of them reserves another name, the size of the table is enough. -/
def expandClass (classes : ClassTable) (visibility : String) :
    Nat → ClassId → ClassDef → RegistryM TypeReference
  | depth, id, c => do
    if (← get).contains c.name then
      checkConsistent classes (.cls id)
      return .named c.name
    match depth with
    | 0 => throw (.duplicateDeclaration c.name)
    | depth + 1 =>
      reserve classes (.cls id)
      let properties ← c.properties.mapM fun (name, d) => do
        let type ← resolveWith classes (expandClass classes visibility depth) d
        (buildProperty name type visibility : Except BuildError PropertyDeclaration)
      declare classes (.cls id)
        (some (.cls ⟨c.name, properties, [], false, c.isInterface, "public"⟩))
      return .named c.name

/-- The reference to a type. Types that the registry does not contain are declared on the way. -/
def resolve (classes : ClassTable) (visibility : String) (d : Descriptor) :
    RegistryM TypeReference :=
  resolveWith classes (expandClass classes visibility classes.size) d

end HubProxy
