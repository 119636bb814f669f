import HubProxy.Contract.Error
import HubProxy.Contract.Metadata
import HubProxy.Contract.Primitive
import HubProxy.Contract.TypeExpression
import HubProxy.Document.Load

/-!
# Contracts in documents

A document describes a contract by a `types` section, a `hub` and a `client_api`. Types are read
when an operation mentions them. A class enters the table before its properties are read, so a class
that mentions itself is met as a known one, and every mention of a name gives the same descriptor.
-/

namespace HubProxy

open Document (Scalar ValueId)

/-- The entries of a mapping of a document, by key in order. -/
abbrev Section := List (Scalar × ValueId)

namespace Contract

/-- The types read so far: the classes, and the descriptor of each name. -/
structure TypeTable where
  classes : ClassTable
  known : List (String × Descriptor)

abbrev ReadM := StateT TypeTable (Except ContractError)

/-- A mapping of a document. What is missing counts as an empty one. -/
def asMapping (doc : Document) (value : Option ValueId) (place : String) :
    Except ContractError Section :=
  match value.map doc.value with
  | none | some (.scalar .null) => .ok []
  | some (.mapping entries) => .ok entries
  | some _ => .error (.notMapping place)

/-- A text that may be too long to be shown. -/
def shown (text : Option String) : ReadM String :=
  match text with
  | some text => return text
  | none => throw .numberTooLong

/-- The text of a value that stands for a name, or another text if there is none. -/
def textOr (doc : Document) (value : Option ValueId) (missing : String) : ReadM String :=
  shown (value.elim (some missing) doc.text?)

def readMembers (doc : Document) (name : String) (definition : Section) :
    Except ContractError (List String) :=
  match (Document.findKey definition "members").map doc.value with
  | none => .ok []
  | some value =>
    if !value.isGiven then .ok []
    else
      match value with
      | .sequence items =>
        items.mapM fun id =>
          match doc.value id with
          | .scalar (.text member) => .ok member
          | _ => .error (.membersNotNames name)
      | _ => .error (.membersNotNames name)

def remember (name : String) (d : Descriptor) : ReadM Unit :=
  modify fun t => { t with known := (name, d) :: t.known }

/-- The type of a definition. The properties of a class are read by `property`. -/
def readDefinition (doc : Document) (types : Section)
    (property : ValueId → String → ReadM Descriptor) (name : String) : ReadM Descriptor := do
  let definition ← asMapping doc (Document.findKey types name) ("types." ++ name)
  let kind ← textOr doc (Document.findKey definition "kind") "class"
  if kind = "enum" then
    let d := Descriptor.enum name (← readMembers doc name definition)
    remember name d
    return d
  else if kind = "class" ∨ kind = "interface" then
    let id := (← get).classes.size
    modify fun t => { t with classes := t.classes.push ⟨name, [], kind = "interface"⟩ }
    remember name (.cls id)
    let entries ← asMapping doc (Document.findKey definition "properties")
      ("types." ++ name ++ ".properties")
    let properties ← entries.mapM fun (key, value) => do
      let key ← shown key.outer?
      return (key, ← property value ("types." ++ name ++ "." ++ key))
    modify fun t => { t with classes := t.classes.modify id fun c => { c with properties } }
    return .cls id
  else throw (.unknownKind name kind)

/-- The type that an expression stands for, `named` reading the names that are not primitive. The
bound is met by the length of the expression. -/
def readExpression (named : String → ReadM Descriptor) (isDefined : String → Bool)
    (place : String) : Nat → List Char → ReadM Descriptor
  | 0, _ => throw (.typeNotText place)
  | bound + 1, cs => do
    let cs := Text.trimChars cs
    if cs.isEmpty then throw (.typeNotText place)
    let inner := readExpression named isDefined place bound
    match Outer.ofTrimmed cs with
    | .array element => return .array (← inner element)
    | .nullable element => return .generic "Nullable" [← inner element]
    | .generic base arguments =>
      return .generic (String.ofList base) (← arguments.mapM inner)
    | .name text =>
      let text := String.ofList text
      match primitive? text with
      | some d => return d
      | none => if isDefined text then named text else throw (.unknownType place text)

/-- The type that a value stands for as an expression. The bound limits how many definitions are
read inside each other; every one of them is that of another name. -/
def readType (doc : Document) (types : Section) :
    Nat → ValueId → String → ReadM Descriptor
  | depth, value, place =>
    match doc.value value with
    | .scalar (.text text) =>
      let cs := text.toList
      let named (name : String) : ReadM Descriptor := do
        match (← get).known.lookup name with
        | some d => return d
        | none =>
          match depth with
          | 0 => throw (.unknownType place name)
          | depth + 1 => readDefinition doc types (readType doc types depth) name
      let isDefined (name : String) : Bool := (Document.findKey types name).isSome
      readExpression named isDefined place (cs.length + 1) cs
    | _ => throw (.typeNotText place)

def readParameters (doc : Document) (types : Section) (entry : Section)
    (place : String) : ReadM (List (String × Descriptor)) := do
  let entries ← asMapping doc (Document.findKey entry "parameters") (place ++ ".parameters")
  entries.mapM fun (key, value) => do
    let key ← shown key.outer?
    return (key, ← readType doc types types.length value (place ++ "." ++ key))

/-- The results that an operation has if it is asynchronous and yields no value. -/
def asyncVoidResults : List String :=
  ["Task", "System.Threading.Tasks.Task"]

def readOperation (doc : Document) (types : Section) (direction : Direction)
    (place : String) (value : ValueId) : ReadM Operation := do
  let entry ← asMapping doc (some value) place
  match (Document.findKey entry "name").map doc.value with
  | some (.scalar (.text name)) => do
    if name = "" then throw (.operationWithoutName place)
    let parameters ← readParameters doc types entry place
    let returns ← textOr doc (Document.findKey entry "returns") "Task"
    return { name, direction, parameters, asyncVoid := returns ∈ asyncVoidResults
             returns := some returns }
  | _ => throw (.operationWithoutName place)

def readOperations (doc : Document) (types : Section) (direction : Direction)
    (part : String) (data : Section) : ReadM (List Operation) := do
  match (Document.findKey data "operations").map doc.value with
  | none => return []
  | some value =>
    if !value.isGiven then return []
    match value with
    | .sequence items =>
      items.zipIdx.mapM fun (item, index) =>
        readOperation doc types direction (part ++ ".operations[" ++ toString index ++ "]") item
    | .pairs _ => throw (.notMapping (part ++ ".operations[0]"))
    | _ => throw (.operationsNotList part)

/-- The name of a section: the one it gives, or that of the section itself. -/
def sectionName (doc : Document) (part : String) (data : Section) : ReadM String :=
  match Document.findKey data "name" with
  | some id => if (doc.value id).isGiven then shown (doc.text? id) else return part
  | none => return part

/-- The hub or the client API of a document, if it has the section. -/
def readSection (doc : Document) (types : Section) (root : Section) (part : String)
    (role : Role) (direction : Direction) : ReadM (List ContractType) := do
  match Document.findKey root part with
  | none => return []
  | some id =>
    match doc.value id with
    | .scalar .null => return []
    | _ => do
      let data ← asMapping doc (some id) part
      let name ← sectionName doc part data
      return [⟨name, role, ← readOperations doc types direction part data⟩]

def ofDocument (doc : Document) (source : String) : Except ContractError Metadata := do
  let root ← match doc.value doc.top with
    | .scalar .null => .ok []
    | .mapping entries => .ok entries
    | _ => .error (.rootNotMapping source)
  let types ← asMapping doc (Document.findKey root "types") "types"
  let read : ReadM (List ContractType) := do
    let hub ← readSection doc types root "hub" .hub .serverReceived
    let api ← readSection doc types root "client_api" .clientApi .clientInvoked
    return hub ++ api
  let (contractTypes, table) ← read.run ⟨#[], []⟩
  return ⟨source, contractTypes, table.classes⟩

def ofText (text source : String) : Except ContractError Metadata :=
  match Document.load text with
  | .error .malformed => .error (.unparsable source)
  | .error cause => .error (.badScalar cause)
  | .ok doc => ofDocument doc source

end Contract

end HubProxy
