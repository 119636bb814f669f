import HubProxy.Decimal.Whole
import HubProxy.Document.Cursor
import HubProxy.Document.Error
import HubProxy.Document.Token
import HubProxy.Text.Hex

/-!
# Anchors, tags and directives

The readers of the tokens that say something about a node or about a document. Each starts at a
cursor and gives a token and the cursor after it.
-/

namespace HubProxy.Document

/-- The characters of anchors, handles and directive names. -/
def isNameChar (x : Char) : Bool :=
  x.isAlphanum || x == '-' || x == '_'

def readName (c : Cursor) : Result (String × Cursor) :=
  let name := c.run isNameChar
  if name.isEmpty then .error .malformed
  else .ok (String.ofList name, c.advanceBy name.length)

/-- The name of an anchor or an alias, from its indicator on. -/
def readAnchor (c : Cursor) : Result (String × Cursor) := do
  let (name, c) ← readName c.advance
  if isGap c.peek || "?:,]\x7d%@\x60".toList.contains c.peek then return (name, c)
  else .error .malformed

/-- The characters of a tag, a percent sign standing for itself. -/
def isTagChar (x : Char) : Bool :=
  isNameChar x || ";/?:@&=+$,.!~*'()[]".toList.contains x

/-- Bytes given by percent signs and two digits each. -/
def escapedBytes : List Char → Result (List UInt8 × List Char)
  | '%' :: a :: b :: rest =>
    match Text.readDigits? 16 [a, b] with
    | some n => do
      let (bytes, rest) ← escapedBytes rest
      return (UInt8.ofNat n :: bytes, rest)
    | none => .error .malformed
  | '%' :: _ => .error .malformed
  | rest => .ok ([], rest)

/-- The rest of a tag, escaped bytes being decoded. -/
def tagChars : Nat → List Char → List Char → Result (List Char × List Char)
  | 0, _, _ => .error .malformed
  | bound + 1, rest, done =>
    match rest with
    | '%' :: _ => do
      let (bytes, rest) ← escapedBytes rest
      match String.fromUTF8? ⟨bytes.toArray⟩ with
      | some text => tagChars bound rest (done ++ text.toList)
      | none => .error .malformed
    | x :: more => if isTagChar x then tagChars bound more (done ++ [x]) else .ok (done, rest)
    | [] => .ok (done, rest)

/-- The part of a tag after its handle, which is not empty. -/
def readTagSuffix (c : Cursor) : Result (String × Cursor) := do
  let (chars, rest) ← tagChars (c.rest.length + 1) c.rest []
  let read := c.rest.length - rest.length
  if read = 0 then .error .malformed
  else return (String.ofList chars, c.advanceBy read)

/-- A tag handle: an exclamation mark alone, or two with a name between them. -/
def readHandle (c : Cursor) : Result (String × Cursor) :=
  if c.peek != '!' then .error .malformed
  else if c.peekAt 1 == ' ' then .ok ("!", c.advance)
  else
    let name := c.advance.run isNameChar
    if c.peekAt (name.length + 1) == '!' then
      .ok ("!" ++ String.ofList name ++ "!", c.advanceBy (name.length + 2))
    else .error .malformed

/-- A tag, from its exclamation mark on. -/
def readTag (c : Cursor) : Result (WrittenTag × Cursor) := do
  let (written, c) ←
    if c.peekAt 1 == '<' then do
      let (suffix, c) ← readTagSuffix (c.advanceBy 2)
      if c.peek == '>' then pure ((⟨none, suffix⟩ : WrittenTag), c.advance)
      else .error .malformed
    else if isGap (c.peekAt 1) then pure (⟨none, "!"⟩, c.advance)
    else do
      let word := c.advance.run fun x => !isSpaceOrEnd x
      let (handle, c) ← if word.contains '!' then readHandle c else pure ("!", c.advance)
      let (suffix, c) ← readTagSuffix c
      pure (⟨some handle, suffix⟩, c)
  if isSpaceOrEnd c.peek then return (written, c) else .error .malformed

def readVersionNumber (c : Cursor) : Result (Nat × Cursor) :=
  let digits := c.run Char.isDigit
  match digits, Decimal.readWhole? digits with
  | [], _ => .error .malformed
  | _, some n => .ok (n, c.advanceBy digits.length)
  | _, none => .error .badNumber

def readVersion (c : Cursor) : Result (Directive × Cursor) := do
  let (major, c) ← readVersionNumber c.skipSpaces
  if c.peek != '.' then throw .malformed
  let (minor, c) ← readVersionNumber c.advance
  if isSpaceOrEnd c.peek then return (.version major minor, c) else .error .malformed

/-- A handle and the start of the tags that it stands for. -/
def readTagDirective (c : Cursor) : Result (Directive × Cursor) := do
  let (handle, c) ← readHandle c.skipSpaces
  if c.peek != ' ' then throw .malformed
  let (tagStart, c) ← readTagSuffix c.skipSpaces
  if isSpaceOrEnd c.peek then return (.tag handle tagStart, c) else .error .malformed

/-- A directive, from its percent sign to the end of its line. -/
def readDirective (c : Cursor) : Result (Directive × Cursor) := do
  let (name, c) ← readName c.advance
  if !isSpaceOrEnd c.peek then throw .malformed
  let (d, c) ←
    if name = "YAML" then readVersion c
    else if name = "TAG" then readTagDirective c
    else pure (Directive.other, c.skip (!isBreakOrEnd ·))
  let c := c.skipSpaces.skipComment
  if isBreakOrEnd c.peek then return (d, c.lineBreak.2) else .error .malformed

end HubProxy.Document
