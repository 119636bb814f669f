/-!
# Edit scripts

An edit script says line by line how one text becomes another: which lines stay, which go and which
come. `script` finds the longest run of lines that both texts have, keeps it, and goes on with what
stands before and behind it. In a long text, a line that occurs often says little about what belongs
together: a run may hold such a line, but none is looked for by it alone.
-/

namespace HubProxy.Diff

inductive Edit where
  | keep (line : String)
  | remove (line : String)
  | add (line : String)
  deriving DecidableEq, Repr

def Edit.isKeep : Edit → Bool
  | .keep _ => true
  | _ => false

def Edit.before? : Edit → Option String
  | .keep line => some line
  | .remove line => some line
  | .add _ => none

def Edit.after? : Edit → Option String
  | .keep line => some line
  | .remove _ => none
  | .add line => some line

def before (script : List Edit) : List String :=
  script.filterMap Edit.before?

def after (script : List Edit) : List String :=
  script.filterMap Edit.after?

def commonStart : List String → List String → List String
  | x :: xs, y :: ys => if x = y then x :: commonStart xs ys else []
  | _, _ => []

/-- How many lines two lists have in common at their ends. -/
def commonEnd (xs ys : List String) : Nat :=
  (commonStart xs.reverse ys.reverse).length

/-- For each line of the second text, the length of the run of common lines that ends there and at
a given line of the first. `previous` holds these lengths for the line before. -/
def runLengths (isAnchor : String → Bool) (line : String) (lines : List String)
    (previous : List Nat) : List Nat :=
  List.zipWith (fun other length => if line == other && isAnchor other then length + 1 else 0)
    lines (0 :: previous)

/-- A run of common lines: where it starts in both texts, and its length. -/
structure Run where
  first : Nat
  second : Nat
  length : Nat
  deriving DecidableEq, Repr

/-- The longer of the best run so far and those that end at a given line of the first text. Of runs
of one length the earliest stays. -/
def Run.improve (best : Run) (first : Nat) (lengths : List Nat) : Run :=
  lengths.zipIdx.foldl (fun best (length, second) =>
    if best.length < length then ⟨first + 1 - length, second + 1 - length, length⟩ else best) best

/-- The longest run of anchors that two texts have in common. -/
def longestRun (isAnchor : String → Bool) (xs ys : List String) : Run :=
  (xs.zipIdx.foldl (fun (best, previous) (line, first) =>
    let lengths := runLengths isAnchor line ys previous
    (best.improve first lengths, lengths)) (⟨0, 0, 0⟩, ys.map fun _ => 0)).1

/-- Where the run starts that the two texts are aligned by: the longest run of anchors, with the
common lines in front of it. -/
def alignment (isAnchor : String → Bool) (xs ys : List String) : Nat × Nat :=
  let run := longestRun isAnchor xs ys
  let more := commonEnd (xs.take run.first) (ys.take run.second)
  (run.first - more, run.second - more)

/-- The script of a text that becomes another. The first argument bounds the depth; the length of
the first text is enough, since every run that is kept makes what remains of it shorter. -/
def scriptWith (isAnchor : String → Bool) : Nat → List String → List String → List Edit
  | 0, xs, ys => xs.map .remove ++ ys.map .add
  | depth + 1, xs, ys =>
    let (i, j) := alignment isAnchor xs ys
    let run := commonStart (xs.drop i) (ys.drop j)
    if run.isEmpty then xs.map .remove ++ ys.map .add
    else
      scriptWith isAnchor depth (xs.take i) (ys.take j) ++ run.map .keep
        ++ scriptWith isAnchor depth (xs.drop (i + run.length)) (ys.drop (j + run.length))

/-- The number of lines from which on a text is long. -/
def longText : Nat := 200

/-- Whether a run may be looked for by a line of the second text. In a long text, a line that makes
up more than a hundredth of it is no anchor. -/
def isAnchorOf (ys : List String) (line : String) : Bool :=
  ys.length < longText || ys.count line ≤ ys.length / 100 + 1

def script (xs ys : List String) : List Edit :=
  let frequent := if ys.length < longText then [] else ys.filter fun y => !isAnchorOf ys y
  scriptWith (fun line => !frequent.contains line) (xs.length + 1) xs ys

end HubProxy.Diff
