/-!
# Paths

A path is a start and the names to follow from there. Repeated slashes, a slash at the end and
single dots say nothing and are dropped; double dots stay, since only a lookup knows what they lead
to. Exactly two slashes at the start are a start of their own.
-/

namespace HubProxy

inductive PathStart where
  | here
  | root
  /-- The start that two slashes stand for. -/
  | network
  deriving DecidableEq, Repr, Inhabited

def PathStart.text : PathStart → String
  | .here => ""
  | .root => "/"
  | .network => "//"

structure Path where
  start : PathStart
  parts : List String
  deriving DecidableEq, Repr, Inhabited

namespace Path

def splitSlashes : List Char → List (List Char)
  | [] => [[]]
  | c :: rest =>
    match splitSlashes rest with
    | [] => [[c]]
    | piece :: more => if c = '/' then [] :: piece :: more else (c :: piece) :: more

/-- The names in a text, without what says nothing. -/
def partsOf (cs : List Char) : List String :=
  ((splitSlashes cs).map String.ofList).filter fun part => part != "" && part != "."

def startOf : List Char → PathStart
  | '/' :: '/' :: '/' :: _ => .root
  | '/' :: '/' :: _ => .network
  | '/' :: _ => .root
  | _ => .here

def ofText (s : String) : Path :=
  ⟨startOf s.toList, partsOf s.toList⟩

def text (p : Path) : String :=
  if p.start = .here ∧ p.parts = [] then "." else p.start.text ++ "/".intercalate p.parts

/-- Whether a path means the same wherever it is read. -/
def isAbsolute (p : Path) : Bool :=
  p.start != .here

def join (base p : Path) : Path :=
  if p.isAbsolute then p else ⟨base.start, base.parts ++ p.parts⟩

def child (p : Path) (name : String) : Path :=
  p.join (ofText name)

def holdsNull (p : Path) : Bool :=
  p.parts.any fun part => part.toList.contains '\x00'

/-- The last name of a path. -/
def name (p : Path) : String :=
  p.parts.getLastD ""

/-- The path without its last name. -/
def parent (p : Path) : Path :=
  ⟨p.start, p.parts.dropLast⟩

/-- A name cut before its last dot. A dot at either end of a name cuts nothing. -/
def cutName (name : String) : String × String :=
  let reversed := name.toList.reverse
  let tail := reversed.takeWhile (· != '.')
  match reversed.drop tail.length with
  | '.' :: head =>
    if head.isEmpty || tail.isEmpty then (name, "")
    else (String.ofList head.reverse, String.ofList ('.' :: tail.reverse))
  | _ => (name, "")

/-- The end of the last name, from its last dot. -/
def suffix (p : Path) : String :=
  (cutName p.name).2

/-- The last name without its suffix. -/
def stem (p : Path) : String :=
  (cutName p.name).1

/-- The path with another last name; a path without names has none to replace. -/
def withName? (p : Path) (name : String) : Option Path :=
  if p.parts = [] then none else some ⟨p.start, p.parts.dropLast ++ [name]⟩

/-- Follows double dots as if every name were a directory. -/
def normalParts (parts : List String) : List String :=
  parts.foldl (fun done part => if part = ".." then done.dropLast else done ++ [part]) []

/-- The place that a path means when it is read in a directory. -/
def resolveIn (p directory : Path) : Path :=
  ⟨.root, normalParts (directory.join p).parts⟩

/-- The rest of a path that starts with another one. -/
def relativeTo? (p base : Path) : Option Path :=
  if p.start = base.start ∧ base.parts.isPrefixOf p.parts then
    some ⟨.here, p.parts.drop base.parts.length⟩
  else none

/-- The home directories of accounts, the current one being the one without a name. -/
abbrev Homes := String → Option Path

/-- Replaces a tilde at the start by a home directory; an account without one has no such path. -/
def expandHome? (homes : Homes) (p : Path) : Option Path :=
  match p.start, p.parts with
  | .here, first :: rest =>
    match first.toList with
    | '~' :: account => (homes (String.ofList account)).map fun home => home.join ⟨.here, rest⟩
    | _ => some p
  | _, _ => some p

end Path

end HubProxy
