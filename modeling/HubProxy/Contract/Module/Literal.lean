import HubProxy.Decimal.Text
import HubProxy.Text.Quoted

/-!
# Written-out values

The values that a module writes out instead of naming them. Numbers are equal if they are equally
large, whatever their kind, and a truth value counts as one or zero; `numberKey?` gives equally
large numbers the same key. The entries of a table have no order.
-/

namespace HubProxy.ContractModule

inductive Literal where
  | nothing
  | truth (value : Bool)
  | whole (value : Int)
  | real (value : Float)
  | text (value : String)
  | list (items : List Literal)
  | table (entries : List (String × Literal))
  deriving Inhabited

/-- The key of a number: the whole number that it is, or a number between two whole ones. -/
def Literal.numberKey? : Literal → Option (Int ⊕ Float)
  | .truth b => some (.inl (if b then 1 else 0))
  | .whole n => some (.inl n)
  | .real x =>
    match Decimal.wholeOf? x with
    | some n => some (.inl n)
    | none => some (.inr x)
  | _ => none

/-- Whether two values are equally large numbers. -/
def Literal.sameNumber (a b : Literal) : Bool :=
  match a.numberKey?, b.numberKey? with
  | some (.inl m), some (.inl n) => m == n
  | some (.inr x), some (.inr y) => x == y
  | _, _ => false

mutual

def Literal.same : Literal → Literal → Bool
  | .nothing, .nothing => true
  | .text a, .text b => a == b
  | .list as, .list bs => Literal.sameItems as bs
  | .table as, .table bs => as.length == bs.length && Literal.entriesAmong as bs
  | a, b => a.sameNumber b

def Literal.sameItems : List Literal → List Literal → Bool
  | [], [] => true
  | a :: as, b :: bs => a.same b && Literal.sameItems as bs
  | _, _ => false

/-- Whether all entries of a table are among others. -/
def Literal.entriesAmong : List (String × Literal) → List (String × Literal) → Bool
  | [], _ => true
  | (key, a) :: rest, bs => Literal.entryAmong key a bs && Literal.entriesAmong rest bs

def Literal.entryAmong (key : String) (a : Literal) : List (String × Literal) → Bool
  | [] => false
  | (k, b) :: rest => k == key && a.same b || Literal.entryAmong key a rest

end

def Literal.kindName : Literal → String
  | .nothing => "NoneType"
  | .truth _ => "bool"
  | .whole _ => "int"
  | .real _ => "float"
  | .text _ => "str"
  | .list _ => "list"
  | .table _ => "dict"

mutual

def Literal.shown : Literal → String
  | .nothing => "None"
  | .truth b => if b then "True" else "False"
  | .whole n => toString n
  | .real x => Decimal.text x
  | .text s => Text.quoted s
  | .list items => "[" ++ ", ".intercalate (Literal.texts items) ++ "]"
  | .table entries => "\x7b" ++ ", ".intercalate (Literal.entryTexts entries) ++ "\x7d"

def Literal.texts : List Literal → List String
  | [] => []
  | v :: rest => v.shown :: Literal.texts rest

def Literal.entryTexts : List (String × Literal) → List String
  | [] => []
  | (key, v) :: rest => (Text.quoted key ++ ": " ++ v.shown) :: Literal.entryTexts rest

end

/-- Whether a value is none of those that count as nothing: zeros and what is empty. -/
def Literal.isSomething : Literal → Bool
  | .nothing => false
  | .text s => s != ""
  | .list items => !items.isEmpty
  | .table entries => !entries.isEmpty
  | v => !v.sameNumber (.whole 0)

end HubProxy.ContractModule
