import HubProxy.Decimal.Text
import HubProxy.Json.Encoding
import HubProxy.Text.Blank

/-!
# Requests for generation

The body of a request for generation is a JSON object with three texts and an optional one. A body
that is none is answered by its faults, in the order of the fields. Each fault is reported together
with what was found instead.
-/

namespace HubProxy.Service

open Json (Value)

structure Request where
  verb : String
  target : String
  contentType : String
  body : ByteArray

/-- What a generation is asked for. -/
structure GenerationRequest where
  contract : String
  ns : String
  className : String
  prior : Option String

inductive BodyFault where
  /-- There is no body. -/
  | noBody
  | notObject
  /-- The body is no JSON text; reading stopped at an offset. -/
  | notJson (offset : Nat)
  | missing (field : String)
  | notText (field : String)
  /-- A text holds half of a surrogate pair. -/
  | unpaired (field : String)
  deriving DecidableEq, Repr

/-- A fault and what was found instead. -/
structure FaultReport where
  fault : BodyFault
  found : Value

/-- Why a body is not read. -/
inductive BodyRefusal where
  | faults (reports : List FaultReport)
  /-- The bytes are no text, or the text exceeds a limit. -/
  | unreadable

/-- A text in place of a field, or the fault in it. -/
def textIn (field : String) (found : Value) : Except FaultReport String :=
  match found with
  | .string s => .ok s
  | .unpaired => .error ⟨.unpaired field, found⟩
  | _ => .error ⟨.notText field, found⟩

/-- The value of a text field, or its fault. Where it is missing, the whole body was found. -/
def textField (body : Value) (field : String) : Except FaultReport String :=
  match body.member? field with
  | none => .error ⟨.missing field, body⟩
  | some found => textIn field found

/-- The value of a text field that may be missing or null, or its fault. -/
def optionalField (body : Value) (field : String) : Except FaultReport (Option String) :=
  match body.member? field with
  | none | some .null => .ok none
  | some found => (textIn field found).map some

def faultsOf : Except FaultReport α → List FaultReport
  | .ok _ => []
  | .error report => [report]

/-- The generation request that an object makes, or the faults of all its fields. -/
def requestOf (body : Value) : Except (List FaultReport) GenerationRequest :=
  let contract := textField body "contract"
  let ns := textField body "namespace"
  let className := textField body "class_name"
  let prior := optionalField body "prior_source"
  match contract, ns, className, prior with
  | .ok contract, .ok ns, .ok className, .ok prior => .ok ⟨contract, ns, className, prior⟩
  | _, _, _, _ =>
    .error (faultsOf contract ++ faultsOf ns ++ faultsOf className ++ faultsOf prior)

/-- White space in a header, which is ASCII. -/
def isHeaderBlank (c : Char) : Bool :=
  Text.isBlank c && c.toNat < 128

/-- Whether a content type says that a body is JSON. -/
def saysJson (contentType : String) : Bool :=
  let kind := contentType.toList.takeWhile (· != ';')
  let kind := ((kind.dropWhile isHeaderBlank).reverse.dropWhile isHeaderBlank).reverse
  let kind := kind.map Char.toLower
  let subtype := (kind.dropWhile (· != '/')).drop 1
  kind.takeWhile (· != '/') == "application".toList && !subtype.contains '/'
    && (subtype == "json".toList || "+json".toList.isSuffixOf subtype)

def readBody (r : Request) : Except BodyRefusal GenerationRequest :=
  let refuse (fault : BodyFault) (found : Value) : Except BodyRefusal GenerationRequest :=
    .error (.faults [⟨fault, found⟩])
  if r.body.isEmpty then refuse .noBody .null
  else if !saysJson r.contentType then refuse .notObject .null
  else
    match Json.textOfBytes? r.body.toList with
    | none => .error .unreadable
    | some text =>
      match Json.parse text with
      | .error (.notJson offset) => refuse (.notJson offset) (.object [])
      | .error .excess => .error .unreadable
      | .ok .null => refuse .noBody .null
      | .ok (.object members) => (requestOf (.object members)).mapError .faults
      | .ok found => refuse .notObject found

/-! ## What can be written back -/

/-- Why a value cannot be written into a reply. -/
inductive Unwritable where
  /-- A number is infinite or none at all. -/
  | notFinite
  /-- A text holds half of a surrogate pair. -/
  | unpaired
  deriving DecidableEq, Repr

/-- Whether a number literal stands for no finite number. -/
def isInfinite (literal : String) : Bool :=
  !Json.isWholeLiteral literal
    && (Decimal.read? literal.toList).all fun x => x.isNaN || x.isInf

/-- The members of an object that are written back: those whose names are marked as internal are
not. -/
def writtenMembers (members : List (String × Value)) : List (String × Value) :=
  (Json.lastMembers members).filter fun m => !"_sa".toList.isPrefixOf m.1.toList

/-- What keeps a value from being written back. -/
def unwritable : Nat → Value → List Unwritable
  | 0, _ => []
  | depth + 1, v =>
    match v with
    | .number literal => if isInfinite literal then [.notFinite] else []
    | .unpaired => [.unpaired]
    | .array items => items.flatMap (unwritable depth)
    | .object members => (writtenMembers members).flatMap fun m => unwritable depth m.2
    | _ => []

/-- What keeps fault reports from being written back, a number before a text. -/
def unwritableIn? (reports : List FaultReport) : Option Unwritable :=
  let causes := reports.flatMap fun r => unwritable (Json.depthLimit + 2) r.found
  if causes.contains .notFinite then some .notFinite else causes.head?

end HubProxy.Service
