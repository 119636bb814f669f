import HubProxy.Decimal.Text
import HubProxy.Decimal.Whole
import HubProxy.Document.Time
import HubProxy.Text.Quoted

/-!
# Values of a document

What a document says, after tags and merge keys have done their work. Collections are kept in a
table and refer to their members by place, since a collection may contain itself. Every value has a
text, which stands for it wherever a message or a name needs one.
-/

namespace HubProxy.Document

/-- A value without members. -/
inductive Scalar where
  | null
  | bool (b : Bool)
  | int (n : Int)
  | float (x : Float)
  /-- What is no number at all, by the node that it comes from; the word for it is always one and
  the same, wherever it stands. -/
  | notANumber (origin : Option Nat)
  | text (s : String)
  | bytes (bs : List UInt8)
  | date (d : Date)
  | time (t : DateTime)
  deriving Inhabited

/-- The place of a value in the table. -/
abbrev ValueId := Nat

/-- A value. A mapping keeps its keys in the order in which they were met. -/
inductive Value where
  | scalar (s : Scalar)
  | sequence (items : List ValueId)
  | mapping (entries : List (Scalar × ValueId))
  | set (members : List Scalar)
  | pairs (items : List (ValueId × ValueId))
  deriving Inhabited

end HubProxy.Document

namespace HubProxy

/-- A document: its values and the one that it is as a whole. -/
structure Document where
  values : Array Document.Value
  top : Document.ValueId

namespace Document

/-- The value at a place; a place outside the table holds nothing. -/
def value (d : Document) (id : ValueId) : Value :=
  d.values.getD id (.scalar .null)

/-- The value of a whole number or a truth value that stands for one. -/
def Scalar.whole? : Scalar → Option Int
  | .int n => some n
  | .bool b => some (if b then 1 else 0)
  | _ => none

def floatIsInt (x : Float) (n : Int) : Bool :=
  let (negative, exponent, fraction) := Decimal.parts x
  if exponent = 2047 then false
  else
    let (m, q) := Decimal.dyadic exponent fraction
    let size := if 0 ≤ q then m * Nat.pow 2 q.toNat else m / Nat.pow 2 (-q).toNat
    let isWhole := 0 ≤ q || m % Nat.pow 2 (-q).toNat == 0
    isWhole && (if negative then -(size : Int) else size) == n

/-- Whether two scalars are one key. Numbers of equal value are, truth values counting as one and
zero. -/
def Scalar.sameKey (a b : Scalar) : Bool :=
  match a, b with
  | .null, .null => true
  | .text s, .text t => s == t
  | .bytes s, .bytes t => s == t
  | .date s, .date t => s == t
  | .time s, .time t => s.same t
  | .float x, .float y => x == y
  | .notANumber m, .notANumber n => m == n
  | .float x, k => k.whole?.any (floatIsInt x)
  | k, .float x => k.whole?.any (floatIsInt x)
  | _, _ =>
    match a.whole?, b.whole? with
    | some m, some n => m == n
    | _, _ => false

/-- Puts a value under a key. A key that is there already keeps its place and its form. -/
def putKey (entries : List (Scalar × α)) (key : Scalar) (value : α) : List (Scalar × α) :=
  match entries with
  | [] => [(key, value)]
  | (k, v) :: rest =>
    if k.sameKey key then (k, value) :: rest else (k, v) :: putKey rest key value

/-- The value under a text key. -/
def findKey (entries : List (Scalar × α)) (key : String) : Option α :=
  (entries.find? fun e => e.1.sameKey (.text key)).map (·.2)

/-- Whether a value counts as given: nothing, falsehood, zero and what is empty do not. -/
def Value.isGiven : Value → Bool
  | .scalar .null => false
  | .scalar (.bool b) => b
  | .scalar (.int n) => n != 0
  | .scalar (.float x) => x != 0.0
  | .scalar (.notANumber _) => true
  | .scalar (.text s) => s != ""
  | .scalar (.bytes bs) => !bs.isEmpty
  | .scalar (.date _) => true
  | .scalar (.time _) => true
  | .sequence items => !items.isEmpty
  | .mapping entries => !entries.isEmpty
  | .set members => !members.isEmpty
  | .pairs items => !items.isEmpty

/-- The text of a scalar inside a collection. A whole number can be too long to be shown. -/
def Scalar.inner? : Scalar → Option String
  | .null => some "None"
  | .bool b => some (if b then "True" else "False")
  | .int n => Decimal.wholeText? n
  | .float x => some (Decimal.text x)
  | .notANumber _ => some "nan"
  | .text s => some (Text.quoted s)
  | .bytes bs => some (Text.quotedBytes bs)
  | .date d => some d.inner
  | .time t => some t.inner

/-- The text of a scalar, unless it is too long to be shown. -/
def Scalar.outer? : Scalar → Option String
  | .text s => some s
  | .date d => some d.text
  | .time t => some t.text
  | s => s.inner?

/-- The text of a value inside a collection, unless it holds a number too long to be shown. `around`
holds the collections on the way to it: one that contains itself is cut short. Since no collection
is entered twice on one way, the size of the table bounds the depth. -/
def innerText? (d : Document) : Nat → List ValueId → ValueId → Option String
  | 0, _, _ => some "..."
  | depth + 1, around, id => do
    let member := d.innerText? depth (id :: around)
    match d.value id with
    | .scalar s => s.inner?
    | .sequence items =>
      if around.contains id then return "[...]"
      return "[" ++ ", ".intercalate (← items.mapM member) ++ "]"
    | .mapping entries =>
      if around.contains id then return "\x7b...\x7d"
      let shown ← entries.mapM fun (k, v) => do return (← k.inner?) ++ ": " ++ (← member v)
      return "\x7b" ++ ", ".intercalate shown ++ "\x7d"
    | .set members =>
      if members.isEmpty then return "set()"
      return "\x7b" ++ ", ".intercalate (← members.mapM Scalar.inner?) ++ "\x7d"
    | .pairs items =>
      if around.contains id then return "[...]"
      let shown ← items.mapM fun (k, v) => do
        return "(" ++ (← member k) ++ ", " ++ (← member v) ++ ")"
      return "[" ++ ", ".intercalate shown ++ "]"

/-- The text of a value, unless it holds a number too long to be shown. -/
def text? (d : Document) (id : ValueId) : Option String :=
  match d.value id with
  | .scalar s => s.outer?
  | _ => d.innerText? (d.values.size + 2) [] id

end Document

end HubProxy
