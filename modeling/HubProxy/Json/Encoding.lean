import HubProxy.Json.Reader

/-!
# JSON as bytes

A JSON text comes as bytes in one of five encodings. It starts with an ASCII character, so the zero
bytes among the first four tell the width of a character and the order of its bytes; a text with a
mark at its start is one of eight-bit units. Bytes that are no text in the encoding are refused.
-/

namespace HubProxy.Json

/-- How characters are written in bytes: in units of eight, sixteen or thirty-two bits, the larger
ones starting with their highest or their lowest byte. -/
inductive Encoding where
  | units8
  | units16 (highFirst : Bool)
  | units32 (highFirst : Bool)
  deriving DecidableEq, Repr

/-- The encoding that the first bytes of a text tell. -/
def Encoding.ofBytes : List UInt8 → Encoding
  | [a, b] => if a = 0 then .units16 true else if b = 0 then .units16 false else .units8
  | a :: b :: c :: d :: _ =>
    if a = 0 then (if b = 0 then .units32 true else .units16 true)
    else if b = 0 then (if c = 0 && d = 0 then .units32 false else .units16 false)
    else .units8
  | _ => .units8

/-- The numbers that groups of bytes stand for, the highest byte of a group coming first, unless
bytes are left over. -/
def unitsOf? (width : Nat) (bytes : List UInt8) (group : List UInt8) : Option (List Nat) :=
  match bytes with
  | [] => if group.isEmpty then some [] else none
  | b :: rest =>
    let group := group ++ [b]
    if group.length < width then unitsOf? width rest group
    else (unitsOf? width rest []).map (group.foldl (fun n b => n * 256 + b.toNat) 0 :: ·)

/-- The numbers that groups of bytes stand for in either order of bytes. -/
def unitsIn? (width : Nat) (highFirst : Bool) (bytes : List UInt8) : Option (List Nat) :=
  if highFirst then unitsOf? width bytes []
  else (unitsOf? width bytes.reverse []).map List.reverse

/-- The characters of sixteen-bit units. Half of a pair counts as a character that is unknown. -/
def joinPairs : List Nat → List Char
  | [] => []
  | [unit] => [if 0xd800 ≤ unit ∧ unit < 0xe000 then '\ufffd' else Char.ofNat unit]
  | high :: low :: rest =>
    if 0xd800 ≤ high ∧ high < 0xdc00 ∧ 0xdc00 ≤ low ∧ low < 0xe000 then
      Char.ofNat (0x10000 + (high - 0xd800) * 0x400 + (low - 0xdc00)) :: joinPairs rest
    else
      (if 0xd800 ≤ high ∧ high < 0xe000 then '\ufffd' else Char.ofNat high)
        :: joinPairs (low :: rest)

/-- The character of a code, unless it is too large for one. -/
def charOfCode? (code : Nat) : Option Char :=
  if 0x110000 ≤ code then none
  else if 0xd800 ≤ code ∧ code < 0xe000 then some '\ufffd'
  else some (Char.ofNat code)

/-- The text without a byte order mark. -/
def withoutMark (text : String) : String :=
  match text.toList with
  | '\ufeff' :: rest => String.ofList rest
  | _ => text

/-- The text that bytes stand for in an encoding, if they do. -/
def Encoding.decode? (bytes : List UInt8) : Encoding → Option String
  | .units8 => (String.fromUTF8? ⟨bytes.toArray⟩).map withoutMark
  | .units16 highFirst => (unitsIn? 2 highFirst bytes).map (String.ofList ∘ joinPairs)
  | .units32 highFirst => do
    let codes ← unitsIn? 4 highFirst bytes
    return String.ofList (← codes.mapM charOfCode?)

/-- The text of JSON bytes in the encoding that they tell. -/
def textOfBytes? (bytes : List UInt8) : Option String :=
  (Encoding.ofBytes bytes).decode? bytes

end HubProxy.Json
