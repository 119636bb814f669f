import HubProxy.Contract.Module.Enumeration
import HubProxy.Contract.Module.Record
import HubProxy.Contract.Module.Scope
import HubProxy.Text.NormalName

/-!
# Carrying out a contract module

The definitions of a module are carried out from top to bottom. A name that is defined again keeps
its place and takes the new value. A class is made in steps: its bases are found, the kind of class
that it is, its body, the layout of its objects and the order of its ancestors, and only then what
enumerations, generic classes, protocols and record classes ask for. Members of a class whose names
ask for privacy are renamed.
-/

namespace HubProxy.ContractModule

/-- What a class holds under a name. A function remembers the class that defines it. -/
inductive Attribute where
  | function (owner : String) (f : FunctionDef)
  | value (v : TypeValue)
  /-- A function whose parameters are not told. -/
  | untold (name : String)
  deriving Inhabited

/-- The value of an attribute that is no function. -/
def Attribute.value? : Attribute → Option TypeValue
  | .value v => some v
  | _ => none

/-- The value that an attribute is for a term. -/
def Attribute.termValue : Attribute → TypeValue
  | .value v => v
  | .function _ f => .routine f.name
  | .untold name => .routine name

/-- A class of a module. `ancestors` starts with the class itself; `typeVariables` is there if the
class is generic, even without any. -/
structure ClassRecord where
  ref : ClassRef
  ancestors : List ClassRef
  /-- The ancestor whose layout the objects of the class have. -/
  layout : ClassRef
  typeVariables : Option (List (String × Nat))
  isProtocol : Bool
  annotated : List (String × TypeTerm)
  attributes : List (String × Attribute)
  mark : Option String
  recordFields : Option (List (String × RecordField))
  dataType : Option ClassRef
  items : List (String × EnumItem)
  members : List String
  deriving Inhabited

/-- What is known while a module is carried out. -/
structure ModuleState where
  names : List (String × TypeValue)
  classes : Array ClassRecord
  typeVariables : Nat

abbrev RunM := StateT ModuleState (Except Fault)

def define (name : String) (v : TypeValue) : RunM Unit :=
  modify fun s => { s with names := put s.names name v }

def addClass (r : ClassRecord) : RunM Unit := do
  modify fun s => { s with classes := s.classes.push r }
  define r.ref.name (.cls r.ref)

def recordOf? (classes : Array ClassRecord) (c : ClassRef) : Option ClassRecord :=
  c.own.bind (classes[·]?)

/-- The ancestors of a class, starting with itself. -/
def ancestorsOf (classes : Array ClassRecord) (c : ClassRef) : List ClassRef :=
  match recordOf? classes c with
  | some r => r.ancestors
  | none => standardOrder 8 c

/-- The records among the ancestors of a class, starting with its own. -/
def recordsOf (classes : Array ClassRecord) (c : ClassRef) : List ClassRecord :=
  (ancestorsOf classes c).filterMap (recordOf? classes)

/-- Whether a class descends from another one. -/
def descendsFrom (classes : Array ClassRecord) (c ancestor : ClassRef) : Bool :=
  (ancestorsOf classes c).contains ancestor

/-- The functions that a class which no module defines gives its subclasses. -/
def standardAttributes (c : ClassRef) : List (String × Attribute) :=
  let hidden : List (String × Attribute) :=
    (hiddenNamesOf c).map fun name => (name, .value (.routine name))
  if c = coreClass "str" then hidden ++ [("maketrans", .untold "maketrans")]
  else
    hidden ++ (standardFunctions c).map fun text =>
      let words := (Text.splitRuns (· == ' ') text.toList).map String.ofList
      let name := words.headD ""
      let single (name : String) : FunctionParameter := ⟨name, none, .single⟩
      let bound := if name = "maketrans" then [] else ["self"]
      (name, .function c.name
        { name
          parameters := (bound ++ words.drop 1).map single
          isBound := true, isAsync := false, mark := none, returns := none })

def attributesOf (classes : Array ClassRecord) (c : ClassRef) : List (String × Attribute) :=
  (recordOf? classes c).elim (standardAttributes c) (·.attributes)

/-- What is known of a class of the module when types are applied and looked up. -/
def viewOf (classes : Array ClassRecord) (id : Nat) : Option ClassView :=
  classes[id]?.map fun r =>
    let held := (recordsOf classes r.ref).flatMap fun r =>
      r.items.map (fun (name, item) => (name, TypeValue.item item))
        ++ r.attributes.map fun (name, a) => (name, a.termValue)
    ⟨r.typeVariables.map List.length, held, r.ancestors⟩

def ModuleState.scope (s : ModuleState) : Scope :=
  ⟨s.names, [], viewOf s.classes⟩

/-- Whether a value is a type that was named or applied by a form. -/
def TypeValue.isFormed : TypeValue → Bool
  | .alias _ => true
  | .apply (.plain _) _ => false
  | .apply _ _ => true
  | .union _ => true
  | .remarked .. => true
  | _ => false

/-- Whether one of the bases after a named generic type makes the class generic. Those before it
must be classes. -/
def laterGeneric (classes : Array ClassRecord) : List TypeValue → Except Fault Bool
  | [] => .ok false
  | base :: rest =>
    match base with
    | .cls c =>
      if descendsFrom classes c (formClass "Generic") then .ok true else laterGeneric classes rest
    | .apply (.plain c) _ =>
      if descendsFrom classes c (formClass "Generic") then .ok true else laterGeneric classes rest
    | v =>
      if v.isFormed then .ok true else .error (.noClass "issubclass() arg 1 must be a class")

/-- The classes that stand for one of the bases of a class, or the base if it stands for none. The
bases after it are those behind its first place. -/
def classesOfBase (classes : Array ClassRecord) (bases : List TypeValue) (base : TypeValue) :
    Except Fault (List (ClassRef ⊕ TypeValue)) :=
  let later := (bases.dropWhile fun other => !base.same other).drop 1
  let generic := formClass "Generic"
  let ofAlias (a : Alias) : Except Fault (List (ClassRef ⊕ TypeValue)) := do
    let own := if TypeValue.among (.cls a.origin) bases then [] else [.inl a.origin]
    return own ++ (if ← laterGeneric classes later then [] else [.inl generic])
  match base with
  | .cls c => .ok [.inl c]
  | .alias a => ofAlias a
  | .apply (.alias a) _ => ofAlias a
  | .apply (.generic c) _ =>
    if c = generic && (TypeValue.among (.cls (formClass "Protocol")) bases
        || later.any fun other => other.isFormed && !other.same base)
    then .ok [] else .ok [.inl c]
  | .apply (.plain c) _ => .ok [.inl c]
  | .remarked (.cls c) _ => .ok [.inl c]
  | .form _ | .union _ | .apply (.form _) _ => .error (.noBase base.shown)
  | v => .ok [.inr v]

/-- The classes that stand for the bases of a class, and the bases that stand for none. -/
def baseClasses (classes : Array ClassRecord) (bases : List TypeValue) :
    Except Fault (List (ClassRef ⊕ TypeValue)) := do
  return (← bases.mapM (classesOfBase classes bases)).flatten

/-- Why no class can be made by the kind of a base that is no class. -/
def withoutClass (bases : List TypeValue) (base : TypeValue) : Fault :=
  let kind := base.kindName
  .noClass <|
    if kind = "NoneType" then "NoneType takes no arguments"
    else if kind = "ellipsis" then "EllipsisType takes no arguments"
    else if kind = "int" then "int() takes at most 2 arguments (3 given)"
    else if kind = "module" then "module() takes at most 2 arguments (3 given)"
    else if kind = "str" then "str() argument 'encoding' must be str, not tuple"
    else if kind = "InitVar" then "InitVar.__init__() takes 2 positional arguments but 4 were given"
    else if kind = "TypeVar" then
      "TypeVar(name, constraint, ...): constraints must be types. Got "
        ++ String.ofList ((TypeValue.tuple bases).shown.toList.take 100) ++ "."
    else if ["bool", "float", "list", "dict", "tuple"].contains kind then
      kind ++ " expected at most 1 argument, got 3"
    else
      match base with
      | .item i => "'" ++ i.owner.name ++ "' object has no attribute '__mro__'"
      | _ => "cannot create '" ++ kind ++ "' instances"

/-- The kind that goes with two kinds of bases. -/
def joinKinds (left right : ClassKind) : Except Fault ClassKind :=
  match left, right with
  | .plain, kind => .ok kind
  | kind, .plain => .ok kind
  | .abstract, .protocol => .ok .protocol
  | .protocol, .abstract => .ok .protocol
  | .enumeration, .flags => .ok .flags
  | .flags, .enumeration => .ok .flags
  | _, _ => if left = right then .ok left else .error .kindConflict

def kindOf (bases : List ClassRef) : Except Fault ClassKind :=
  bases.foldlM (fun kind base => joinKinds kind base.kind) .plain

/-- The bases of a class, all of which must be classes. -/
def onlyClasses (bases : List (ClassRef ⊕ TypeValue)) : Except Fault (List ClassRef) :=
  let others := bases.filterMap fun base => base.getRight?
  let classes := bases.filterMap fun base => base.getLeft?
  match others with
  | [] => .ok classes
  | base :: rest =>
    if classes.isEmpty && rest.all (fun v => v.kindName == base.kindName) then
      .error (withoutClass others base)
    else .error .kindConflict

/-- The class that tells what the members of an enumeration are: of each base the first ancestor
that makes its objects by itself, or a class below that. -/
def dataTypeOf (classes : Array ClassRecord) : Option ClassRef → List ClassRef → Option ClassRef
  | _, [] => none
  | candidate, c :: rest =>
    let record := recordOf? classes c
    if c = objectClass then dataTypeOf classes candidate rest
    else if c.kind.isEnumeration then
      let given := match record with
        | some r => r.dataType
        | none =>
          if c = enumClass "IntEnum" || c = enumClass "IntFlag" then some (coreClass "int")
          else if c = enumClass "StrEnum" then some (coreClass "str")
          else none
      given.or (dataTypeOf classes candidate rest)
    else if c.home = coreHome || record.any (·.recordFields.isSome) || hasLayout c then
      some (candidate.getD c)
    else dataTypeOf classes (candidate.or (some c)) rest

/-- What the members of an enumeration are. An enumeration with members cannot be a base, and the
last base must be an enumeration. -/
def enumDataType (classes : Array ClassRecord) (name : String) (bases : List ClassRef) :
    Except Fault (Option ClassRef) := do
  for base in bases do
    let filled := (recordsOf classes base).find? fun r => !r.members.isEmpty
    if let some r := filled then throw (.extendsMembers name r.ref.shown)
  unless bases.getLast?.any (·.kind.isEnumeration) do throw .enumerationNotLast
  match (bases.filterMap fun c => dataTypeOf classes none (ancestorsOf classes c)).eraseDups with
  | [] => return none
  | [c] => return some c
  | types => throw (.severalDataTypes name (", ".intercalate (types.map ClassRef.shown)))

/-- A name of a class member as other classes see it. -/
def memberName (className name : String) : String :=
  let cs := name.toList
  let stem := className.toList.dropWhile (· == '_')
  if "__".toList.isPrefixOf cs && !"__".toList.isSuffixOf cs && !stem.isEmpty then
    String.ofList ('_' :: stem ++ cs)
  else name

/-- The body of a class: the types of its fields and everything else by its name. -/
structure ClassBody where
  annotated : List (String × TypeTerm)
  held : EnumBody Attribute

def Attribute.shown : Attribute → String
  | .value v => v.shown
  | .function owner f => "<function " ++ owner ++ "." ++ f.name ++ ">"
  | .untold name => "<function " ++ name ++ ">"

/-- Puts an attribute into the body of an enumeration. A name is taken once by a member. -/
def putEnum (className name : String) (a : Attribute) (body : EnumBody Attribute) :
    Except Fault (EnumBody Attribute) := do
  let entries := put body.entries name a
  let use ← enumName className name
  if use = .hidden then return { body with entries }
  if use = .setting then
    if name = "_ignore_" then
      let items ← listedItems (a.value?.getD .nothing)
      if let some kind := TypeValue.firstUnhashable? items then throw (.unhashable kind)
      let ignored := textsIn items
      let late := ignored.filter body.members.contains
      if !late.isEmpty then
        throw (.ignoredTooLate (", ".intercalate (late.eraseDups.map Text.quoted)))
      return { body with entries, ignored }
    return { body with entries }
  let before := body.entries.lookup name
  if body.members.contains name then
    throw (.repeatedMember name (before.elim "" Attribute.shown))
  if body.ignored.contains name then return { body with entries }
  match a, before with
  | .value _, some b => throw (.repeatedMember name b.shown)
  | .value _, none => return { body with entries, members := body.members ++ [name] }
  | _, _ => return { body with entries }

def putAttribute (isEnum : Bool) (className name : String) (a : Attribute) (body : ClassBody) :
    Except Fault ClassBody := do
  let name := memberName className name
  if isEnum then
    let name := if name = "__order__" then "_order_" else name
    return { body with held := ← putEnum className name a body.held }
  else return { body with held := { body.held with entries := put body.held.entries name a } }

def readBody (s : Scope) (isEnum : Bool) (c : ClassDefinition) : Except Fault ClassBody := do
  let place := putAttribute isEnum c.name
  let body ← c.members.foldlM (fun body member =>
    match member with
    | .field name type default => do
      let body ← match default with
        | some term => place name (.value (← s.evaluate term)) body
        | none => pure body
      return { body with annotated := put body.annotated (memberName c.name name) type }
    | .value name term => do place name (.value (← s.evaluate term)) body
    | .function f =>
      let parameters := f.parameters.map fun p => { p with name := memberName c.name p.name }
      place f.name (.function c.name { f with parameters }) body) ⟨[], ⟨[], [], []⟩⟩
  if let some name := body.held.members.find? fun name => name == "mro" || name == "" then
    throw (.invalidMember name)
  return body

/-- The class whose layout the objects of a class have that no module defines. -/
def standardLayout (c : ClassRef) : ClassRef :=
  ((standardOrder 8 c).find? hasLayout).getD objectClass

/-- The class whose layout the objects of a new class have. Objects of variable size get a layout of
their own when they get names. -/
def layoutOf (classes : Array ClassRecord) (ref : ClassRef) (bases : List ClassRef) :
    Except Fault ClassRef := do
  let winner ← bases.foldlM (fun (winner : Option ClassRef) base => do
    if isClosed base then throw (.closedBase base.tag)
    let candidate := (recordOf? classes base).elim (standardLayout base) (·.layout)
    match winner with
    | none => return some candidate
    | some c =>
      if descendsFrom classes c candidate then return some c
      else if descendsFrom classes candidate c then return some candidate
      else throw .layoutConflict) none
  let layout := winner.getD objectClass
  if layout.home = coreHome && ["int", "tuple", "bytes"].contains layout.name then return ref
  else return layout

def newAncestors (classes : Array ClassRecord) (ref : ClassRef) (bases : List ClassRef) :
    Except Fault (List ClassRef) := do
  let repeated := (bases.zipIdx.filter fun (c, i) => (bases.drop (i + 1)).contains c).map (·.1)
  if let some c := repeated.head? then throw (.repeatedBase c.name)
  let bases := if bases.isEmpty then [objectClass] else bases
  let orders := bases.map (ancestorsOf classes) ++ [bases]
  match merge (orders.flatten.length + 1) orders with
  | .ok rest => return ref :: rest
  | .error heads => throw (.inconsistentOrder (heads.map (·.name)))

/-- The type variables of a class with the given bases, if it is generic. -/
def classVariables (bases : List TypeValue) : Except Fault (List (String × Nat)) := do
  let typeVariables := TypeValue.variablesOf bases
  let listed := bases.filterMap fun base =>
    match base with
    | .apply (.generic c) arguments =>
      if c = formClass "Generic" then some (TypeValue.variablesOf arguments) else none
    | _ => none
  match listed with
  | [] => return typeVariables
  | [given] =>
    let unlisted := typeVariables.filter fun x => !given.contains x
    if unlisted.isEmpty then return given
    else
      let shown (x : String × Nat) : String := "~" ++ x.1
      throw (.unlistedVariables (unlisted.map shown) (given.map shown))
  | _ => throw .severalGenericBases

/-- The type variables of a new class with the given ancestors, if it is generic. -/
def newVariables (values : List TypeValue) (ancestors : List ClassRef) :
    Except Fault (Option (List (String × Nat))) := do
  let generic := formClass "Generic"
  let isPlain : TypeValue → Bool
    | .cls _ => true
    | _ => false
  if !(ancestors.contains generic) then return none
  if TypeValue.among (.cls generic) values then throw .plainGenericBase
  if values.all isPlain then return some []
  return some (← classVariables values)

def protocolClasses : List String :=
  ["Callable", "Awaitable", "Iterable", "Iterator", "AsyncIterable", "Hashable", "Sized",
    "Container", "Collection", "Reversible"]

/-- Refuses a protocol with a base that is none. -/
def checkProtocol (classes : Array ClassRecord) (bases : List ClassRef) : Except Fault Unit := do
  let generic := formClass "Generic"
  let allowed (c : ClassRef) : Bool :=
    c = objectClass || isGenericMaker c
      || (c.home == "collections.abc" && protocolClasses.contains c.name)
      || (recordOf? classes c).any fun r => r.isProtocol && r.ancestors.contains generic
  if let some c := bases.find? fun c => !allowed c then throw (.protocolBase c.shown)

/-- Whether an attribute counts as a truth. -/
def Attribute.holds : Attribute → Bool
  | .value (.literal v) => v.isSomething
  | .value (.list items) => !items.isEmpty
  | _ => true

/-- Whether a new class is a protocol: it says so by itself or has the class of protocols as a base.
A class apart from protocols says so as its ancestors do. -/
def newProtocol (classes : Array ClassRecord) (attributes : List (String × Attribute))
    (ancestors bases : List ClassRef) : Except Fault Bool := do
  let said := (attributes.lookup "_is_protocol").map Attribute.holds
  if ancestors.contains (formClass "Protocol") then
    let isProtocol := said.getD false || bases.contains (formClass "Protocol")
    if isProtocol then checkProtocol classes bases
    return isProtocol
  else
    let inherited := ((ancestors.drop 1).filterMap (recordOf? classes)).findSome? fun r =>
      (r.attributes.lookup "_is_protocol").map Attribute.holds
    return (said.or inherited).getD false

def newRecordFields (s : ModuleState) (ancestors : List ClassRef) (body : ClassBody) :
    Except Fault (List (String × RecordField)) := do
  let inherited := (ancestors.drop 1).reverse.filterMap fun c =>
    (recordsOf s.classes c).findSome? (·.recordFields)
  let default? (name : String) : Option (Option TypeValue) :=
    let held := (body.held.entries.lookup name).or
      ((ancestors.drop 1).findSome? fun c => (attributesOf s.classes c).lookup name)
    held.map Attribute.value?
  recordFields inherited (← bodyFields s.names default? false body.annotated)

/-- The members of a new enumeration under all of their names, and the names that it lists. -/
def newMembers (rules : EnumRules) (hasType : Bool) (bases : List ClassRef)
    (held : EnumBody Attribute) : Except Fault (List (String × EnumItem) × List String) := do
  let given := held.members.filterMap fun name =>
    ((held.entries.lookup name).bind Attribute.value?).map fun v => (name, v)
  let made ← enumItems rules given
  if bases.contains (enumClass "ReprEnum") && !hasType then throw .withoutDataType
  if let some order := (held.entries.lookup "_order_").bind Attribute.value? then
    checkOrder rules made order
  return (made.map fun (name, entry) => (name, entry.item), listedNames rules made)

def defineClass (home : String) (c : ClassDefinition) : RunM Unit := do
  let s ← get
  let values ← liftM (c.bases.mapM s.scope.evaluate)
  let bases ← liftM (do onlyClasses (← baseClasses s.classes values))
  let kind ← liftM (kindOf bases)
  let ref : ClassRef := ⟨home, c.name, some s.classes.size, kind⟩
  let dataType ←
    if kind.isEnumeration then liftM (enumDataType s.classes c.name bases) else pure none
  let body ← liftM (readBody s.scope kind.isEnumeration c)
  let layout ← liftM (layoutOf s.classes ref bases)
  let ancestors ← liftM (newAncestors s.classes ref bases)
  let isCore (c : ClassRef) : Bool := c.home == coreHome && c != objectClass
  let rules : EnumRules :=
    { owner := ref
      dataType := dataType.bind fun c => (ancestorsOf s.classes c).find? isCore
      isText := bases.getLast?.any fun c => descendsFrom s.classes c (enumClass "StrEnum")
      showsValue := ancestors.contains (enumClass "ReprEnum") }
  let (items, members) ←
    if kind.isEnumeration then liftM (newMembers rules dataType.isSome bases body.held)
    else pure ([], [])
  let typeVariables ← liftM (newVariables values ancestors)
  let attributes := body.held.entries.filter fun (name, _) =>
    !body.held.members.contains name && !body.held.ignored.contains name
  let isProtocol ← liftM (newProtocol s.classes attributes ancestors bases)
  let recordFields ←
    if c.isRecord then liftM ((newRecordFields s ancestors body).map some) else pure none
  let mark := c.mark.map fun m => (m.name.filter (· != "")).getD c.name
  addClass
    { ref, ancestors, layout, typeVariables, isProtocol, attributes, mark, recordFields, dataType
      items, members, annotated := body.annotated }

def runDefinition (home : String) : Definition → RunM Unit
  | .cls c => defineClass home c
  | .variable name => do
    let s ← get
    set { s with typeVariables := s.typeVariables + 1 }
    define (Text.normalName name) (.variable name s.typeVariables)
  | .alias name type => do
    let s ← get
    define name (← liftM (s.scope.evaluate type))
  | .failure text => throw (.raised text)

def run (home : String) (definitions : List Definition) : Except Fault ModuleState := do
  let (_, s) ← (definitions.forM (runDefinition home)).run ⟨startNames, #[], 0⟩
  return s

end HubProxy.ContractModule
