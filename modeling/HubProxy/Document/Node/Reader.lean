import HubProxy.Document.Error
import HubProxy.Document.Node

/-!
# From tokens to nodes

`graph?` reads the only document of a token sequence. A collection enters the table before its
children, so that an alias inside it can refer to it.
-/

namespace HubProxy.Document

/-- The state of reading nodes. `fault` is what follows the last token, where the text had to be
given up. -/
structure NodeReader where
  rest : List Token
  fault : LoadError
  nodes : Array Node
  anchors : List (String × NodeId)
  handles : List (String × String)

abbrev NodeM := StateT NodeReader Result

namespace NodeReader

def peek : NodeM Token := do
  match (← get).rest with
  | t :: _ => return t
  | [] => throw (← get).fault

def next : NodeM Unit :=
  modify fun s => { s with rest := s.rest.drop 1 }

/-- Moves over the next token if it is the given one, and tells whether it was. -/
def takeIf (t : Token) : NodeM Bool := do
  if (← peek) = t then
    next
    return true
  else return false

/-- Moves over the next token, which has to be the given one. -/
def take (t : Token) : NodeM Unit := do
  unless ← takeIf t do throw .malformed

/-- Adds a node and, if it has an anchor, the name. -/
def addNode (anchor : Option String) (node : Node) : NodeM NodeId := do
  let id := (← get).nodes.size
  modify fun s => { s with
    nodes := s.nodes.push node
    anchors := (anchor.map (·, id)).toList ++ s.anchors }
  return id

/-- Puts the content of a node that entered the table before its children. -/
def setContent (id : NodeId) (content : Content) : NodeM Unit :=
  modify fun s => { s with nodes := s.nodes.modify id fun n => { n with content } }

/-- A scalar without text, where a node is missing. -/
def addEmpty : NodeM NodeId :=
  addNode none ⟨.null, .scalar ""⟩

/-- The anchor and the tag before a node, in either order. -/
def properties : NodeM (Option String × Option WrittenTag) := do
  match ← peek with
  | .anchor name => do
    next
    match ← peek with
    | .tag t => do next; return (some name, some t)
    | _ => return (some name, none)
  | .tag t => do
    next
    match ← peek with
    | .anchor name => do next; return (some name, some t)
    | _ => return (none, some t)
  | _ => return (none, none)

/-- The full name of a written tag, its handle being replaced by what it stands for. -/
def fullName (t : WrittenTag) : NodeM String := do
  match t.handle with
  | none => return t.suffix
  | some handle =>
    match (← get).handles.lookup handle with
    | some tagStart => return tagStart ++ t.suffix
    | none => throw .malformed

/-- The tag of a scalar: the one it is marked with, or the one its text implies. -/
def scalarTag (name : Option String) (text : String) (isPlain : Bool) : Tag :=
  match name with
  | none => if isPlain then implicitTag text else .text
  | some "!" => implicitTag text
  | some name => Tag.ofName name

/-- The tag of a collection: the one it is marked with, or the usual one. -/
def collectionTag (name : Option String) (usual : Tag) : Tag :=
  match name with
  | none | some "!" => usual
  | some name => Tag.ofName name

/-- The items of a bracketed sequence, of which some have been read; `pair` reads one that is a
mapping of a single entry. -/
def flowItems (node pair : NodeM NodeId) : Nat → List NodeId → NodeM (List NodeId)
  | 0, _ => throw .malformed
  | bound + 1, done => do
    if ← takeIf .flowSequenceEnd then return done.reverse
    unless done.isEmpty do take .flowEntry
    match ← peek with
    | .key => flowItems node pair bound ((← pair) :: done)
    | .flowSequenceEnd => do next; return done.reverse
    | _ => flowItems node pair bound ((← node) :: done)

/-- A node, unless one of the tokens that cannot start one comes first. -/
def nodeUnless (stops : List Token) (node : NodeM NodeId) : NodeM NodeId := do
  if stops.contains (← peek) then addEmpty else node

/-- A value after its mark; without a mark there is nothing. -/
def markedValue (stops : List Token) (node : NodeM NodeId) : NodeM NodeId := do
  if ← takeIf .value then nodeUnless stops node else addEmpty

/-- A mapping of one entry in a bracketed sequence, from the mark of its key on. -/
def flowPair (node : NodeM NodeId) : NodeM NodeId := do
  let id ← addNode none ⟨.mapping, .mapping []⟩
  take .key
  let key ← nodeUnless [.value, .flowEntry, .flowSequenceEnd] node
  let value ← markedValue [.flowEntry, .flowSequenceEnd] node
  setContent id (.mapping [(key, value)])
  return id

/-- The entries of a braced mapping, of which some have been read. -/
def flowEntries (node : NodeM NodeId) :
    Nat → List (NodeId × NodeId) → NodeM (List (NodeId × NodeId))
  | 0, _ => throw .malformed
  | bound + 1, done => do
    if ← takeIf .flowMappingEnd then return done.reverse
    unless done.isEmpty do take .flowEntry
    match ← peek with
    | .key => do
      next
      let key ← nodeUnless [.value, .flowEntry, .flowMappingEnd] node
      let value ← markedValue [.flowEntry, .flowMappingEnd] node
      flowEntries node bound ((key, value) :: done)
    | .flowMappingEnd => do next; return done.reverse
    | _ => do
      let key ← node
      let value ← addEmpty
      flowEntries node bound ((key, value) :: done)

def blockItems (node : NodeM NodeId) : Nat → List NodeId → NodeM (List NodeId)
  | 0, _ => throw .malformed
  | bound + 1, done => do
    if ← takeIf .entry then
      let item ← nodeUnless [.entry, .blockEnd] node
      blockItems node bound (item :: done)
    else do
      take .blockEnd
      return done.reverse

/-- The items of a sequence that is not indented further than its key. -/
def indentlessItems (node : NodeM NodeId) : Nat → List NodeId → NodeM (List NodeId)
  | 0, _ => throw .malformed
  | bound + 1, done => do
    if ← takeIf .entry then
      let item ← nodeUnless [.entry, .key, .value, .blockEnd] node
      indentlessItems node bound (item :: done)
    else return done.reverse

def blockEntries (node : NodeM NodeId) :
    Nat → List (NodeId × NodeId) → NodeM (List (NodeId × NodeId))
  | 0, _ => throw .malformed
  | bound + 1, done => do
    if ← takeIf .key then
      let stops := [Token.key, .value, .blockEnd]
      let key ← nodeUnless stops node
      let value ← markedValue stops node
      blockEntries node bound ((key, value) :: done)
    else do
      take .blockEnd
      return done.reverse

/-- Where a node stands, which decides the forms that it can take. -/
inductive Place where
  /-- Inside brackets or braces. -/
  | flow
  | block
  /-- The key or the value of a block mapping, where a sequence needs no further indentation. -/
  | blockEntry
  deriving DecidableEq

/-- A sequence whose items are read after it has entered the table. -/
def addSequence (anchor name : Option String) (items : NodeM (List NodeId)) : NodeM NodeId := do
  let id ← addNode anchor ⟨collectionTag name .sequence, .sequence []⟩
  setContent id (.sequence (← items))
  return id

/-- A mapping whose entries are read after it has entered the table. -/
def addMapping (anchor name : Option String) (entries : NodeM (List (NodeId × NodeId))) :
    NodeM NodeId := do
  let id ← addNode anchor ⟨collectionTag name .mapping, .mapping []⟩
  setContent id (.mapping (← entries))
  return id

/-- How deep nodes may lie inside each other. -/
def depthLimit : Nat := 490

/-- A node. `size` bounds the length of a collection, which the number of tokens meets; the other
bound is the depth that is left. -/
def readNode (size : Nat) : Nat → Place → NodeM NodeId
  | 0, _ => throw .tooDeep
  | depth + 1, place => do
    match ← peek with
    | .alias name => do
      next
      match (← get).anchors.lookup name with
      | some id => return id
      | none => throw .malformed
    | _ => do
      let (anchor, tag) ← properties
      let name ← tag.mapM fullName
      let first ← peek
      let known := (← get).anchors
      if anchor.any fun a => (known.lookup a).isSome then throw .malformed
      let inner := readNode size depth
      match first with
      | .scalar text isPlain => do
        next
        addNode anchor ⟨scalarTag name text isPlain, .scalar text⟩
      | .flowSequenceStart => do
        next
        addSequence anchor name
          (flowItems (inner .flow) (flowPair (inner .flow)) size [])
      | .flowMappingStart => do
        next
        addMapping anchor name (flowEntries (inner .flow) size [])
      | t => do
        if t = .entry && place = .blockEntry then
          addSequence anchor name (indentlessItems (inner .block) size [])
        else if t = .blockSequenceStart && place ≠ .flow then do
          next
          addSequence anchor name (blockItems (inner .block) size [])
        else if t = .blockMappingStart && place ≠ .flow then do
          next
          addMapping anchor name (blockEntries (inner .blockEntry) size [])
        else if anchor.isSome || name.isSome then
          addNode anchor ⟨scalarTag name "" true, .scalar ""⟩
        else throw .malformed

/-- The directives before a document, which set the tag handles. -/
def directives : Nat → Bool → List (String × String) → NodeM (List (String × String))
  | 0, _, _ => throw .malformed
  | bound + 1, versionSeen, handles => do
    match ← peek with
    | .directive d => do
      next
      match d with
      | .version major _ => do
        if versionSeen || major ≠ 1 then throw .malformed
        directives bound true handles
      | .tag handle tagStart => do
        if (handles.lookup handle).isSome then throw .malformed
        directives bound versionSeen ((handle, tagStart) :: handles)
      | .other => directives bound versionSeen handles
    | _ => return handles

/-- The handles that stand for something without a directive. -/
def usualHandles : List (String × String) :=
  [("!", "!"), ("!!", Tag.standardStart)]

/-- Moves over separators that end a document. -/
def skipDocumentEnds : NodeM Unit :=
  modify fun s => { s with rest := s.rest.dropWhile (· = .documentEnd) }

/-- Whether a token can follow the start of a document that holds nothing. -/
def endsEmptyDocument : Token → Bool
  | .directive _ | .documentStart | .documentEnd | .streamEnd => true
  | _ => false

/-- The first document, if there is one. -/
def readDocument (size : Nat) : NodeM (Option NodeId) := do
  match ← peek with
  | .streamEnd => return none
  | .directive _ | .documentStart => do
    let handles ← directives size false []
    modify fun s => { s with handles := handles ++ usualHandles }
    take .documentStart
    if endsEmptyDocument (← peek) then return some (← addEmpty)
    else return some (← readNode size depthLimit .block)
  | _ => do
    modify fun s => { s with handles := usualHandles }
    return some (← readNode size depthLimit .block)

/-- The only document of the tokens. Where another one follows, its directives are read and the
token after them is looked at before it is refused. -/
def readOnly (size : Nat) : NodeM (Option NodeId) := do
  let top ← readDocument size
  skipDocumentEnds
  if ← takeIf .streamEnd then return top
  let _ ← directives size false []
  let _ ← peek
  throw .malformed

end NodeReader

/-- The graph of the only document in a token sequence, if it holds one. -/
def graph? (tokens : List Token) (fault : Option LoadError) : Result (Option Graph) := do
  let start : NodeReader := ⟨tokens, fault.getD .malformed, #[], [], []⟩
  let (top, s) ← (NodeReader.readOnly (tokens.length + 2)).run start
  return top.map fun top => ⟨s.nodes, top⟩

end HubProxy.Document
