import HubProxy.Files.System

/-!
# A file system in memory

A disk holds its files and directories by place: the names on the way to them from the root. A path
is followed name by name, and every name but the last must be that of a directory. Double dots lead
to the directory above. A disk can be told which changes it fails, so that a run can be watched when
something goes wrong in the middle of it. A log file stays open when it is moved, and when another
file takes its place it is lost together with what is added to it.
-/

namespace HubProxy

/-- The names on the way from the root to a file or a directory. -/
abbrev Place := List String

inductive Node where
  | directory
  | file (content : ByteArray)

def Node.kind : Node → FileKind
  | .directory => .directory
  | .file _ => .file

/-- An open log file: its place, as long as it has one, and the least level that is added. -/
structure OpenLog where
  place : Option Place
  threshold : LogLevel

structure Disk where
  entries : List (Place × Node)
  /-- The directory that relative paths are seen from. -/
  directory : Place
  homes : Path.Homes
  /-- The changes that fail, each with the number of bytes that it still gets through. -/
  strikes : FileChange → Option Nat
  /-- The time that log lines show. -/
  time : String
  log : Option OpenLog

abbrev DiskM := StateM Disk

namespace Disk

/-- What is at a place. The root is always a directory. -/
def get? (d : Disk) (place : Place) : Option Node :=
  if place = [] then some .directory else d.entries.lookup place

def put (d : Disk) (place : Place) (node : Node) : Disk :=
  { d with entries := (place, node) :: d.entries.filter (·.1 != place) }

def erase (d : Disk) (place : Place) : Disk :=
  { d with entries := d.entries.filter (·.1 != place) }

/-- The largest number of bytes in a name. -/
def nameLimit : Nat := 255

/-- The largest number of bytes in a path. -/
def pathLimit : Nat := 4095

/-- The place that the rest of a path leads to from a place. -/
def follow (d : Disk) (path : Path) : Place → List String → Except FileError Place
  | place, [] => .ok place
  | place, name :: rest =>
    match d.get? place with
    | none => .error (.notFound path)
    | some (.file _) => .error (.notDirectory path)
    | some .directory =>
      if nameLimit < name.utf8ByteSize then .error (.nameTooLong path)
      -- the root is above itself
      else if name = ".." then d.follow path place.dropLast rest
      else d.follow path (place ++ [name]) rest

/-- The place that a path leads to. Nothing need be there. -/
def locate (d : Disk) (path : Path) : Except FileError Place :=
  if path.holdsNull then .error .nullInName
  else if pathLimit < path.text.utf8ByteSize then .error (.nameTooLong path)
  else d.follow path (if path.start = .here then d.directory else []) path.parts

/-- What a path leads to. Only a name that is too long is a failure. -/
def kind? (d : Disk) (path : Path) : Except FileError (Option FileKind) :=
  match d.locate path with
  | .ok place => .ok ((d.get? place).map Node.kind)
  | .error (.nameTooLong p) => .error (.nameTooLong p)
  | .error _ => .ok none

def read (d : Disk) (path : Path) : Except FileError ByteArray := do
  match d.get? (← d.locate path) with
  | none => throw (.notFound path)
  | some .directory => throw (.isDirectory path)
  | some (.file content) => return content

/-- The disk with something new where nothing is. -/
def make (d : Disk) (path : Path) (node : Node) : Except FileError Disk := do
  let place ← d.locate path
  match d.get? place with
  | some _ => throw (.taken path)
  | none => return d.put place node

def write (d : Disk) (path : Path) (content : ByteArray) : Except FileError Disk := do
  let place ← d.locate path
  match d.get? place with
  | some .directory => throw (.isDirectory path)
  | _ => return d.put place (.file content)

/-- The disk whose log file has gone from a place to another one, or nowhere. -/
def moveLog (d : Disk) (source : Place) (target : Option Place) : Disk :=
  { d with log := d.log.map fun log =>
      if log.place = some source then { log with place := target } else log }

/-- The disk without a file. -/
def remove (d : Disk) (path : Path) : Except FileError Disk := do
  let place ← d.locate path
  match d.get? place with
  | none => throw (.notFound path)
  | some .directory => throw (.isDirectory path)
  | some (.file _) => return (d.erase place).moveLog place none

/-- The disk with a file in place of another one. -/
def replace (d : Disk) (source target : Path) : Except FileError Disk := do
  let content ← d.read source
  let here ← d.locate source
  let there ← d.locate target
  if (d.get? there).map Node.kind = some .directory then throw (.isDirectory target)
  -- a file that takes its own place stays, and so does a log that is open in it
  if here = there then return d
  return (((d.moveLog there none).moveLog here (some there)).erase here).put there (.file content)

def apply (d : Disk) : FileChange → Except FileError Disk
  | .makeDirectory path => d.make path .directory
  | .create path => d.make path (.file .empty)
  | .write path content => d.write path content
  | .copy source target => do d.write target (← d.read source)
  | .replace source target => d.replace source target
  | .remove path => d.remove path

/-- What a failing change leaves behind. -/
def applyPart (d : Disk) (bytes : Nat) : FileChange → Disk
  | .write path content => (d.write path (content.extract 0 bytes)).toOption.getD d
  | .copy source target =>
    match d.read source with
    | .error _ => d
    | .ok content => (d.write target (content.extract 0 bytes)).toOption.getD d
  | _ => d

/-- The outcome of a change: a failing one leaves the disk as it was, or with a part of the change
if it was struck. -/
def step (d : Disk) (change : FileChange) : Except FileError Unit × Disk :=
  match d.strikes change with
  | some bytes => (.error (.refused "[Errno 5] Input/output error"), d.applyPart bytes change)
  | none =>
    match d.apply change with
    | .ok after => (.ok (), after)
    | .error e => (.error e, d)

def openLog (d : Disk) (path : Path) (threshold : LogLevel) : Except FileError Disk := do
  let path := path.resolveIn ⟨.root, d.directory⟩
  let place ← d.locate path
  let opened := { d with log := some ⟨some place, threshold⟩ }
  match d.get? place with
  | some .directory => throw (.isDirectory path)
  | some (.file _) => return opened
  | none => return opened.put place (.file .empty)

def record (d : Disk) (r : LogRecord) : Disk :=
  match d.log with
  | some ⟨some place, threshold⟩ =>
    match r.passes threshold, d.get? place with
    | true, some (.file before) => d.put place (.file (before ++ (r.timedLine d.time).toUTF8))
    | _, _ => d
  | _ => d

/-- The places of the files below a place, each as seen from there. -/
def filesBelow (d : Disk) (place : Place) : List Place :=
  d.entries.filterMap fun (p, node) =>
    if node.kind = .file ∧ place.isPrefixOf p then some (p.drop place.length) else none

end Disk

instance : FileSystem DiskM where
  directory := return ⟨.root, (← get).directory⟩
  homes := return (← get).homes
  kind? path := return (← get).kind? path
  read path := return (← get).read path
  change change := fun d => d.step change
  openLog path threshold := fun d =>
    match d.openLog path threshold with
    | .ok opened => (.ok (), opened)
    | .error e => (.error e, d)
  record r := modify (·.record r)
  closeLog := modify fun d => { d with log := none }

end HubProxy
