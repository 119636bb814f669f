import HubProxy.Document.Node
import HubProxy.Document.Value.Scalar

/-!
# From nodes to values

`values?` gives every node that the document reaches its value. A collection enters the table of
values empty and is filled later, level by level from the top, so a collection can be met again
while it is filled. Before a mapping is filled, the mappings named under its merge keys are copied
in front of its own entries.
-/

namespace HubProxy.Document

/-! ## Merge keys -/

abbrev GraphM := StateT (Array Node) Result

/-- The entries of a mapping, or nothing for another node. -/
def entriesOf (nodes : Array Node) (id : NodeId) : Option (List (NodeId × NodeId)) :=
  match (nodes.getD id default).content with
  | .mapping entries => some entries
  | _ => none

def tagOf (nodes : Array Node) (id : NodeId) : Tag :=
  (nodes.getD id default).tag

def setEntries (id : NodeId) (entries : List (NodeId × NodeId)) : GraphM Unit :=
  modify (·.modify id fun n => { n with content := .mapping entries })

/-- The mappings that the value of a merge key names: one, or those of a sequence. -/
def mergeSources (nodes : Array Node) (id : NodeId) : Result (List NodeId) :=
  match (nodes.getD id default).content with
  | .mapping _ => .ok [id]
  | .sequence items => .ok items
  | .scalar _ => .error .malformed

/-- The entries of several mappings after `flatten` has dealt with each, those of the last mapping
first. -/
def flattenAll (flatten : NodeId → GraphM Unit) (ids : List NodeId) :
    GraphM (List (NodeId × NodeId)) := do
  let parts ← ids.mapM fun id => do
    if (entriesOf (← get) id).isNone then throw .malformed
    flatten id
    return ((entriesOf (← get) id).getD [] : List (NodeId × NodeId))
  return parts.reverse.flatten

/-- Copies the entries named by merge keys to the front of a mapping, and turns keys that stand for
the whole mapping into plain text. `place` is the entry to look at next and `merged` what has been
copied so far. Each entry that names others is taken out before they are dealt with, so the number
of entries in the table bounds the recursion even where a mapping names itself. -/
def flattenFrom : Nat → NodeId → Nat → List (NodeId × NodeId) → GraphM Unit
  | 0, _, _, _ => throw .malformed
  | bound + 1, id, place, merged => do
    let nodes ← get
    let entries := (entriesOf nodes id).getD []
    let here := entries.drop place
    let plain := here.takeWhile fun e => tagOf nodes e.1 ≠ .merge
    for (key, _) in plain do
      if tagOf nodes key = .default then modify (·.modify key fun n => { n with tag := .text })
    match here.drop plain.length with
    | (_, source) :: _ => do
      let place := place + plain.length
      setEntries id (entries.eraseIdx place)
      let sources ← mergeSources nodes source
      let more ← flattenAll (fun other => flattenFrom bound other 0 []) sources
      flattenFrom bound id place (merged ++ more)
    | [] => unless merged.isEmpty do setEntries id (merged ++ entries)

def entryCount (nodes : Array Node) : Nat :=
  nodes.toList.foldl (fun count n => match n.content with
    | .mapping entries => count + entries.length
    | _ => count) 0

/-- Copies the entries named by the merge keys of a mapping. -/
def flatten (id : NodeId) : GraphM Unit := do
  flattenFrom (entryCount (← get) + 1) id 0 []

/-! ## Values -/

/-- The state of reading values: the nodes, the values so far and the nodes they belong to, and the
collections that are still to be filled, first come first served. -/
structure ValueReader where
  nodes : Array Node
  values : Array Value
  known : List (NodeId × ValueId)
  waiting : List (NodeId × ValueId)

abbrev ValueM := StateT ValueReader Result

namespace ValueReader

/-- The text of a node. A mapping with a key that stands for it as a whole has the text of that
key's value. No way through more nodes than there are has an end. -/
def scalarText (nodes : Array Node) : Nat → NodeId → Result String
  | 0, _ => .error .tooDeep
  | bound + 1, id =>
    match (nodes.getD id default).content with
    | .scalar text => .ok text
    | .sequence _ => .error .malformed
    | .mapping entries =>
      match entries.find? fun e => tagOf nodes e.1 = .default with
      | some (_, value) => scalarText nodes bound value
      | none => .error .malformed

/-- The value of a node as it enters the table, and whether it is still to be filled. -/
def initialValue (nodes : Array Node) (id : NodeId) : Result (Value × Bool) := do
  let text := scalarText nodes (nodes.size + 1) id
  match tagOf nodes id with
  | .null => do let _ ← text; return (.scalar .null, false)
  | .bool => return (.scalar (.bool (← readTruth (← text))), false)
  | .int => return (.scalar (.int (← readWhole (← text))), false)
  | .float => return (.scalar (← readFraction id (← text)), false)
  | .binary => return (.scalar (.bytes (← readBytes (← text))), false)
  | .timestamp => do
    let text ← text
    if (entriesOf nodes id).isSome then throw .timeInMapping
    return (.scalar (← readTime text), false)
  | .text => return (.scalar (.text (← text)), false)
  | .sequence => return (.sequence [], true)
  | .mapping => return (.mapping [], true)
  | .set => return (.set [], true)
  | .orderedMapping | .pairs => return (.pairs [], true)
  | .merge | .default | .other => .error .malformed

/-- The place of a node's value, which enters the table at the first use. -/
def valueOf (id : NodeId) : ValueM ValueId := do
  let s ← get
  match s.known.lookup id with
  | some v => return v
  | none => do
    let (value, isOpen) ← initialValue s.nodes id
    let v := s.values.size
    set { s with
      values := s.values.push value
      known := (id, v) :: s.known
      waiting := if isOpen then s.waiting ++ [(id, v)] else s.waiting }
    return v

/-- The scalar that a node stands for as a key. No collection can be a key. -/
def keyOf (id : NodeId) : ValueM Scalar := do
  let v ← valueOf id
  match (← get).values.getD v default with
  | .scalar s => return s
  | _ => throw .malformed

/-- The entries of a mapping node, merge keys included. -/
def readEntries (id : NodeId) : ValueM (List (Scalar × ValueId)) := do
  let s ← get
  if (entriesOf s.nodes id).isNone then throw .malformed
  let ((), nodes) ← (flatten id).run s.nodes
  set { s with nodes }
  ((entriesOf nodes id).getD []).foldlM (fun done (key, value) => do
    let k ← keyOf key
    let v ← valueOf value
    return putKey done k v) []

/-- The pairs of a sequence of mappings of one entry each. -/
def readPairs (id : NodeId) : ValueM (List (ValueId × ValueId)) := do
  match ((← get).nodes.getD id default).content with
  | .sequence items =>
    items.mapM fun item => do
      match entriesOf (← get).nodes item with
      | some [(key, value)] => return (← valueOf key, ← valueOf value)
      | _ => throw .malformed
  | _ => throw .malformed

def fill (id : NodeId) (value : Value) : ValueM Value := do
  match value with
  | .scalar s => return .scalar s
  | .sequence _ =>
    match ((← get).nodes.getD id default).content with
    | .sequence items => return .sequence (← items.mapM valueOf)
    | _ => throw .malformed
  | .mapping _ => return .mapping (← readEntries id)
  | .set _ => return .set ((← readEntries id).map (·.1))
  | .pairs _ => return .pairs (← readPairs id)

/-- Fills the waiting collections. Each node waits once at most, so the number of nodes is bound
enough. -/
def fillAll : Nat → ValueM Unit
  | 0 => return ()
  | bound + 1 => do
    let s ← get
    match s.waiting with
    | [] => return ()
    | (id, v) :: rest => do
      set { s with waiting := rest }
      let value ← fill id (s.values.getD v default)
      modify fun s => { s with values := s.values.setIfInBounds v value }
      fillAll bound

end ValueReader

def values? (g : Graph) : Result Document := do
  let read : ValueM ValueId := do
    let top ← ValueReader.valueOf g.top
    ValueReader.fillAll (g.nodes.size + 1)
    return top
  let (top, s) ← read.run ⟨g.nodes, #[], [], []⟩
  return ⟨s.values, top⟩

end HubProxy.Document
