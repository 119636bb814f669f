import HubProxy.Decimal.Whole
import HubProxy.Json.Value
import HubProxy.Text.Hex

/-!
# Reading JSON

The reader accepts the JSON grammar and the three number names `NaN`, `Infinity` and `-Infinity`. A
text outside it is refused with the offset, in characters, at which reading stopped. While reading,
that offset is given by how much of the text is left. Numbers and nesting have a limit.
-/

namespace HubProxy.Json

inductive Stop where
  /-- The text is no JSON; this much of it was left. -/
  | fault (left : List Char)
  /-- A whole number has too many digits, or collections lie too deep inside each other. -/
  | excess

/-- How deep collections may lie inside each other. -/
def depthLimit : Nat := 960

/-- The four white-space characters of JSON. -/
def isSpace (c : Char) : Bool :=
  c == ' ' || c == '\t' || c == '\n' || c == '\r'

def skipSpace (cs : List Char) : List Char :=
  cs.dropWhile isSpace

def simpleEscape? : Char → Option Char
  | '"' => some '"'
  | '\\' => some '\\'
  | '/' => some '/'
  | 'b' => some '\x08'
  | 'f' => some '\x0c'
  | 'n' => some '\n'
  | 'r' => some '\r'
  | 't' => some '\t'
  | _ => none

/-- A second `\u` escape that completes a surrogate pair begun with `high`. -/
def lowSurrogate? (high : Nat) : List Char → Option (Char × List Char)
  | '\\' :: 'u' :: a :: b :: c :: d :: rest =>
    match Text.readDigits? 16 [a, b, c, d] with
    | some low =>
      if 0xdc00 ≤ low ∧ low < 0xe000 then
        some (Char.ofNat (0x10000 + (high - 0xd800) * 0x400 + (low - 0xdc00)), rest)
      else none
    | none => none
  | _ => none

def stringValue (paired : Bool) (reversed : List Char) : Value :=
  if paired then .string (String.ofList reversed.reverse) else .unpaired

/-- The rest of a string literal, after what was read of it; `paired` tells that this holds no half
of a surrogate pair. `opening` is the text from the opening quote on, where an unfinished literal is
reported. -/
def readString (opening : List Char) :
    Nat → List Char → List Char → Bool → Except Stop (Value × List Char)
  | 0, _, _, _ => .error (.fault opening)
  | fuel + 1, text, done, paired =>
    match text with
    | [] => .error (.fault opening)
    | '"' :: rest => .ok (stringValue paired done, rest)
    | '\\' :: rest =>
      match rest with
      | [] => .error (.fault opening)
      | 'u' :: a :: b :: c :: d :: e :: more =>
        match Text.readDigits? 16 [a, b, c, d] with
        | none => .error (.fault rest)
        | some n =>
          match (if 0xd800 ≤ n ∧ n < 0xdc00 then lowSurrogate? n (e :: more) else none) with
          | some (joined, after) => readString opening fuel after (joined :: done) paired
          | none =>
            let isHalf := 0xd800 ≤ n && n < 0xe000
            readString opening fuel (e :: more) (Char.ofNat n :: done) (paired && !isHalf)
      | 'u' :: _ => .error (.fault rest)
      | c :: more =>
        match simpleEscape? c with
        | some plain => readString opening fuel more (plain :: done) paired
        | none => .error (.fault text)
    | c :: rest =>
      if c.toNat < 32 then .error (.fault text)
      else readString opening fuel rest (c :: done) paired

/-- The fraction of a number literal, where there is one. -/
def readFraction : List Char → List Char × List Char
  | '.' :: rest =>
    let digits := rest.takeWhile Char.isDigit
    if digits.isEmpty then ([], '.' :: rest) else ('.' :: digits, rest.dropWhile Char.isDigit)
  | text => ([], text)

/-- The exponent of a number literal, where there is one. -/
def readExponent (text : List Char) : List Char × List Char :=
  match text with
  | [] => ([], text)
  | e :: rest =>
    if e == 'e' || e == 'E' then
      let sign := (rest.take 1).filter fun c => c == '+' || c == '-'
      let tail := rest.drop sign.length
      let digits := tail.takeWhile Char.isDigit
      if digits.isEmpty then ([], text)
      else (e :: sign ++ digits, tail.dropWhile Char.isDigit)
    else ([], text)

def readNumber (text : List Char) : Except Stop (Value × List Char) :=
  let sign := (text.take 1).filter (· == '-')
  let unsigned := text.drop sign.length
  let whole := match unsigned with
    | '0' :: _ => ['0']
    | _ => unsigned.takeWhile Char.isDigit
  if whole.isEmpty then .error (.fault text)
  else
    let (fraction, rest) := readFraction (unsigned.drop whole.length)
    let (exponent, rest) := readExponent rest
    let isWhole := fraction.isEmpty && exponent.isEmpty
    if isWhole && Decimal.digitLimit < whole.length then .error .excess
    else .ok (.number (String.ofList (sign ++ whole ++ fraction ++ exponent)), rest)

/-- A literal name, or a number. -/
def readAtom : List Char → Except Stop (Value × List Char)
  | 'n' :: 'u' :: 'l' :: 'l' :: rest => .ok (.null, rest)
  | 't' :: 'r' :: 'u' :: 'e' :: rest => .ok (.bool true, rest)
  | 'f' :: 'a' :: 'l' :: 's' :: 'e' :: rest => .ok (.bool false, rest)
  | 'N' :: 'a' :: 'N' :: rest => .ok (.number "NaN", rest)
  | 'I' :: 'n' :: 'f' :: 'i' :: 'n' :: 'i' :: 't' :: 'y' :: rest => .ok (.number "Infinity", rest)
  | '-' :: 'I' :: 'n' :: 'f' :: 'i' :: 'n' :: 'i' :: 't' :: 'y' :: rest =>
    .ok (.number "-Infinity", rest)
  | text => readNumber text

mutual

/-- A value at the start of the text; `depth` is how deep collections may still lie inside it. -/
def readValue : Nat → Nat → List Char → Except Stop (Value × List Char)
  | 0, _, text => .error (.fault text)
  | fuel + 1, depth, text =>
    match text with
    | '"' :: rest => readString text (rest.length + 1) rest [] true
    | '[' :: rest =>
      match depth, skipSpace rest with
      | 0, _ => .error .excess
      | _, ']' :: after => .ok (.array [], after)
      | depth + 1, start => readItems fuel depth start []
    | '\x7b' :: rest =>
      match depth, skipSpace rest with
      | 0, _ => .error .excess
      | _, '\x7d' :: after => .ok (.object [], after)
      | depth + 1, start => readMembers fuel depth start []
    | _ => readAtom text

/-- The remaining items of an array, up to its bracket. -/
def readItems : Nat → Nat → List Char → List Value → Except Stop (Value × List Char)
  | 0, _, text, _ => .error (.fault text)
  | fuel + 1, depth, text, done => do
    let (item, rest) ← readValue fuel depth text
    match skipSpace rest with
    | ']' :: after => return (.array (item :: done).reverse, after)
    | ',' :: after => readItems fuel depth (skipSpace after) (item :: done)
    | left => throw (.fault left)

/-- The remaining members of an object, up to its brace. A name that is no text is kept as a part of
what it names. -/
def readMembers : Nat → Nat → List Char → List (String × Value) → Except Stop (Value × List Char)
  | 0, _, text, _ => .error (.fault text)
  | fuel + 1, depth, text, done =>
    match text with
    | '"' :: rest => do
      let (name, rest) ← readString text (rest.length + 1) rest [] true
      match skipSpace rest with
      | ':' :: rest =>
        let (item, rest) ← readValue fuel depth (skipSpace rest)
        let entry := match name with
          | .string name => (name, item)
          | _ => ("\ufffd", .array [name, item])
        match skipSpace rest with
        | '\x7d' :: after => return (.object (entry :: done).reverse, after)
        | ',' :: after => readMembers fuel depth (skipSpace after) (entry :: done)
        | left => throw (.fault left)
      | left => throw (.fault left)
    | _ => .error (.fault text)

end

/-- Why a text is not read. -/
inductive Refusal where
  /-- The text is no JSON; reading stopped at an offset. -/
  | notJson (offset : Nat)
  /-- A whole number has too many digits, or collections lie too deep inside each other. -/
  | excess
  deriving DecidableEq, Repr

def parse (s : String) : Except Refusal Value :=
  let text := s.toList
  let fault (left : List Char) := Refusal.notJson (text.length - left.length)
  match readValue (2 * text.length + 2) depthLimit (skipSpace text) with
  | .error (.fault left) => .error (fault left)
  | .error .excess => .error .excess
  | .ok (v, rest) =>
    match skipSpace rest with
    | [] => .ok v
    | left => .error (fault left)

end HubProxy.Json
