import HubProxy.Contract.Metadata

/-!
# Code model

The proxy and the types declared with it, as a tree that the emitter writes out.
-/

namespace HubProxy

/-- A reference to a type by name. The element of an array and the arguments of a generic type
are references too. -/
structure TypeReference where
  name : String
  arguments : List TypeReference
  element : Option TypeReference
  deriving Inhabited

def TypeReference.named (name : String) : TypeReference :=
  ⟨name, [], none⟩

def TypeReference.arrayOf (element : TypeReference) : TypeReference :=
  ⟨element.name ++ "[]", [], some element⟩

def TypeReference.isArray (r : TypeReference) : Bool :=
  r.element.isSome

structure FieldDeclaration where
  name : String
  type : TypeReference
  visibility : String
  deriving Inhabited

structure PropertyDeclaration where
  name : String
  type : TypeReference
  visibility : String
  field : FieldDeclaration
  hasGet : Bool
  hasSet : Bool
  deriving Inhabited

structure Parameter where
  name : String
  type : TypeReference
  deriving Inhabited

inductive Expression where
  | literal (value : String)
  | variable (name : String)
  deriving DecidableEq, Repr, Inhabited

structure MethodCall where
  target : String
  method : String
  arguments : List Expression
  typeArguments : List TypeReference
  deriving Inhabited

/-- A statement that makes one call, and may await it or return its result. -/
structure CallStatement where
  call : MethodCall
  awaited : Bool
  returns : Bool
  deriving Inhabited

structure MethodDeclaration where
  name : String
  parameters : List Parameter
  returnType : TypeReference
  visibility : String
  isAsync : Bool
  body : List CallStatement
  deriving Inhabited

/-- A class or an interface. -/
structure ClassDeclaration where
  name : String
  properties : List PropertyDeclaration
  methods : List MethodDeclaration
  isPartial : Bool
  isInterface : Bool
  visibility : String
  deriving Inhabited

structure EnumDeclaration where
  name : String
  members : List String
  visibility : String
  deriving Inhabited

inductive TypeDeclaration where
  | cls (declaration : ClassDeclaration)
  | enum (declaration : EnumDeclaration)
  deriving Inhabited

def TypeDeclaration.name : TypeDeclaration → String
  | .cls c => c.name
  | .enum e => e.name

/-- Everything that one generation produces before it is written out. -/
structure ApiModel where
  ns : String
  className : String
  connectionProperty : String
  imports : List String
  operations : List Operation
  proxy : ClassDeclaration
  declaredTypes : List Descriptor
  declarations : List TypeDeclaration
  deriving Inhabited

def ApiModel.methods (m : ApiModel) : List MethodDeclaration :=
  m.proxy.methods

/-- The first method of the proxy of that name. -/
def ApiModel.method? (m : ApiModel) (name : String) : Option MethodDeclaration :=
  m.methods.find? (·.name == name)

end HubProxy
