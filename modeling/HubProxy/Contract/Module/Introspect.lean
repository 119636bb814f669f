import HubProxy.Contract.Error
import HubProxy.Contract.Metadata
import HubProxy.Contract.Primitive
import HubProxy.Contract.Module.Load
import HubProxy.Log
import HubProxy.Text.Casing

/-!
# Contracts in modules

A module describes a contract by its classes: hubs are the descendants of the hub class, and client
APIs bear a mark. Their functions are the operations. A class that a type mentions enters the table
before its fields are read, so a class that mentions itself is met as a known one.
-/

namespace HubProxy.ContractModule

/-- A module that was carried out. No type in it is nested deeper than `depth`. -/
structure LoadedModule where
  name : String
  names : List (String × TypeValue)
  classes : Array ClassRecord
  depth : Nat

def LoadedModule.scope (m : LoadedModule) : Scope :=
  ⟨m.names, [], viewOf m.classes⟩

/-- The types described so far: the classes, and the descriptor of each class that was met. -/
structure TypeTable where
  classes : ClassTable
  known : List (ClassRef × Descriptor)

abbrev DescribeM := StateT TypeTable (Except ContractError)

def primitiveOf? (c : ClassRef) : Option Descriptor :=
  if c = contextClass then some connectionContext
  else if c = formClass "Any" then primitive? "object"
  else if c.home = coreHome then
    if c.name = "str" then primitive? "string"
    else if c.name = "int" then primitive? "int"
    else if c.name = "float" then primitive? "double"
    else if c.name = "bool" then primitive? "bool"
    else if c.name = "object" then primitive? "object"
    else if c.name = "bytes" then some (.primitive "byte[]" none)
    else none
  else if c.home = "decimal" then primitive? "decimal"
  else if c.home = "uuid" then primitive? "Guid"
  else if c.home = "datetime" then
    if c.name = "datetime" || c.name = "date" then primitive? "DateTime"
    else if c.name = "time" || c.name = "timedelta" then primitive? "TimeSpan"
    else none
  else none

/-- Whether a generic type with one argument is an array. -/
def isSequence (c : ClassRef) : Bool :=
  c == coreClass "list"
    || (c.home == "collections.abc" && (c.name == "Sequence" || c.name == "MutableSequence"))

/-- The containers that say nothing about what they hold. -/
def isBareContainer (c : ClassRef) : Bool :=
  ["list", "tuple", "dict", "set", "frozenset"].any fun name => c == coreClass name

/-- The scope of the fields of a class, which may also use the values in the class. -/
def LoadedModule.classScope (m : LoadedModule) (r : ClassRecord) : Scope :=
  let attributes := r.attributes.map fun (name, a) => (name, a.termValue)
  { m.scope with attributes }

/-- The types of the fields of a class, those of its ancestors first. A field that is given again
keeps its place. -/
def LoadedModule.fieldTypes (m : LoadedModule) (c : ClassRef) :
    Except Fault (List (String × TypeValue)) :=
  (recordsOf m.classes c).reverse.foldlM (fun fields r =>
    r.annotated.foldlM (fun fields (name, type) => do
      return put fields name (← (m.classScope r).resolve m.depth true type)) fields) []

/-- The text that the reason for a type that cannot be looked up comes with. -/
def unresolved (label : String) (x : Except Fault α) : Except ContractError α :=
  x.mapError fun fault => .unresolvedAnnotations label fault.message

/-- Whether a field is described: not one that is private or belongs to the class. -/
def isDescribed (name : String) (type : TypeValue) : Bool :=
  !"_".toList.isPrefixOf name.toList
    && !(match type with | .apply (.form form) _ => form == "ClassVar" | _ => false)

/-- The descriptor of a type. The first argument bounds the depth: every class is entered once, and
between two of them lie no more steps than types are nested. -/
def LoadedModule.describe (m : LoadedModule) : Nat → TypeValue → DescribeM Descriptor
  | 0, v => throw (.uninterpretable v.shown)
  | depth + 1, v => do
    match v.parts? with
    | some (origin, [x]) =>
      if isSequence origin then return .array (← m.describe depth x)
      return .generic origin.name [.primitive x.name none]
    | some (origin, arguments) =>
      match arguments with
      | [x, .ellipsis] =>
        if origin = coreClass "tuple" then return .array (← m.describe depth x)
      | _ => pure ()
      return .generic origin.name (arguments.map fun x => .primitive x.name none)
    | none =>
      match v with
      | .variable name _ => return .generic name []
      | .cls c =>
        if let some d := primitiveOf? c then return d
        if let some d := (← get).known.lookup c then return d
        let record := recordOf? m.classes c
        if c.kind.isEnumeration then
          let d := Descriptor.enum c.name (record.elim [] (·.members))
          modify fun t => { t with known := (c, d) :: t.known }
          return d
        let typeVariables := (record.bind (·.typeVariables)).getD []
        if isBareContainer c || !typeVariables.isEmpty then return .generic c.name []
        let isProtocolClass := record.elim (c == formClass "Protocol") (·.isProtocol)
        let id := (← get).classes.size
        modify fun t =>
          { classes := t.classes.push ⟨c.name, [], isProtocolClass⟩
            known := (c, .cls id) :: t.known }
        let fields ← liftM (unresolved c.name (m.fieldTypes c))
        let described := fields.filter fun (name, type) => isDescribed name type
        let properties ← described.mapM fun (name, type) => do
          return (Text.camelCase name, ← m.describe depth type)
        modify fun t => { t with classes := t.classes.modify id fun d => { d with properties } }
        return .cls id
      | v => throw (.uninterpretable v.shown)

/-- The bound within which every type of a module is described. -/
def LoadedModule.bound (m : LoadedModule) : Nat :=
  (m.classes.size + m.depth + 2) * (m.depth + 2)

/-- The members of a class, those of its ancestors first. A member that is given again keeps its
place. -/
def LoadedModule.members (m : LoadedModule) (r : ClassRecord) : List (String × Attribute) :=
  (r.ancestors.reverse.flatMap (attributesOf m.classes)).foldl (fun members (name, member) =>
    put members name member) []

/-- The types of the parameters and of the result of a function, where they are given. -/
def LoadedModule.functionTypes (m : LoadedModule) (f : FunctionDef) :
    Except Fault (List (String × TypeValue) × Option TypeValue) := do
  let resolve := m.scope.resolve m.depth false
  let parameters ← f.parameters.filterMapM fun p =>
    p.type.mapM fun type => do return (p.name, ← resolve type)
  return (parameters, ← f.returns.mapM resolve)

/-- The described parameters of a function. The one that stands for the object or the class is left
out. -/
def LoadedModule.describeParameters (m : LoadedModule) (owner : String) (f : FunctionDef)
    (types : List (String × TypeValue)) : DescribeM (List (String × Descriptor)) := do
  let label := owner ++ "." ++ f.name
  let parameters :=
    match f.parameters with
    | first :: rest =>
      if f.isBound && (first.name == "self" || first.name == "cls") then rest
      else f.parameters
    | [] => []
  parameters.mapM fun (p : FunctionParameter) => do
    if p.kind = .variadic then throw (.variadicParameter label p.name)
    match types.lookup p.name with
    | none => throw (.unannotated label p.name)
    | some type => return (Text.camelCase p.name, ← m.describe m.bound type)

/-- The text of a result, and whether the function is asynchronous without one. -/
def returnShape (f : FunctionDef) (type : Option TypeValue) : Bool × String :=
  let isNothing := type.all fun v => v.same (.cls nothingClass)
  if f.isAsync && isNothing then (true, "Task")
  else
    let label := if isNothing then "None" else (type.map TypeValue.name).getD "None"
    (false, (if f.isAsync then "async def -> " else "def -> ") ++ label)

/-- A hub: its marked functions are the operations. -/
def LoadedModule.describeHub (m : LoadedModule) (r : ClassRecord) : DescribeM ContractType := do
  let operations ← (m.members r).filterMapM fun (name, member) => do
    match member with
    | .value _ | .untold _ => return none
    | .function owner f =>
      match f.mark with
      | none => return none
      | some mark =>
        let (types, result) ← liftM (unresolved (r.ref.name ++ "." ++ name) (m.functionTypes f))
        let parameters ← m.describeParameters owner f types
        let (asyncVoid, returns) := returnShape f result
        return some
          { name := (mark.name.filter (· != "")).getD (Text.pascalCase name)
            direction := Direction.serverReceived
            parameters, asyncVoid
            returns := some returns }
  return ⟨r.ref.name, .hub, operations⟩

/-- A client API: its public functions are the operations. -/
def LoadedModule.describeClientApi (m : LoadedModule) (r : ClassRecord) (name : String) :
    DescribeM ContractType := do
  let operations ← (m.members r).filterMapM fun (name, member) => do
    match member with
    | .value _ => return none
    | .untold function => throw (.untoldParameters function)
    | .function owner f =>
      if "_".toList.isPrefixOf name.toList then return none
      let (types, _) ← liftM (unresolved (r.ref.name ++ "." ++ name) (m.functionTypes f))
      let parameters ← m.describeParameters owner f types
      return some
        { name := Text.pascalCase name
          direction := Direction.clientInvoked
          parameters, asyncVoid := true, returns := none }
  return ⟨name, .clientApi, operations⟩

/-- The classes that a module names, each once. -/
def LoadedModule.namedClasses (m : LoadedModule) : List ClassRecord :=
  let records := m.names.filterMap fun (_, v) =>
    match v with
    | .cls c => recordOf? m.classes c
    | _ => none
  records.foldl (fun seen r => if seen.any (·.ref == r.ref) then seen else seen ++ [r]) []

/-- What a class is to the contract, if anything. -/
def LoadedModule.describeContractType (m : LoadedModule) (r : ClassRecord) :
    DescribeM (Option ContractType) := do
  if r.ancestors.contains hubClass then return some (← m.describeHub r)
  match (recordsOf m.classes r.ref).findSome? (·.mark) with
  | some name => return some (← m.describeClientApi r name)
  | none => return none

def LoadedModule.metadata (m : LoadedModule) : Except ContractError Metadata := do
  let (types, table) ← (m.namedClasses.filterMapM m.describeContractType).run ⟨#[], []⟩
  return ⟨m.name, types, table.classes⟩

def moduleName (stem : String) : String :=
  "_hubgen_contract_" ++ stem

def load (name : String) (definitions : List Definition) : Except Fault LoadedModule := do
  let s ← run name definitions
  let size := definitions.foldl (fun n d => n + d.size) 0
  return ⟨name, s.names, s.classes, (size + 2) * (size + 2)⟩

def ofDefinitions (stem path : String) (definitions : List Definition) :
    Except ContractError Metadata :=
  match load (moduleName stem) definitions with
  | .error fault => .error (.moduleFailed path fault.message)
  | .ok m => m.metadata

def introspectedRecord (m : Metadata) : LogRecord :=
  ⟨.debug, "introspect.python",
    "Introspected " ++ toString m.types.length ++ " contract types from " ++ m.source⟩

end HubProxy.ContractModule
