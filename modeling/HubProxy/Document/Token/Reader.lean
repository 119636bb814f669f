import HubProxy.Document.Token.Property
import HubProxy.Document.Token.Scalar

/-!
# From text to tokens

`tokens` reads a whole text. Two things make the order of tokens more than a matter of one character
after another. Indentation opens and closes blocks without a mark of its own. And a scalar or a
bracketed collection turns out to be the key of a mapping only when the colon after it is met, so
the reader remembers where a key could have started and puts the token there afterwards.
-/

namespace HubProxy.Document

/-- A place where the key of a mapping may have started. It is `required` if nothing else could
start there. -/
structure KeyCandidate where
  flowLevel : Nat
  tokenIndex : Nat
  required : Bool
  index : Nat
  line : Nat
  column : Nat

/-- The state of reading tokens: the position, the tokens so far, how many brackets and braces are
open, the columns of the open blocks, whether a key may start here, and where one may have. -/
structure Reader where
  cursor : Cursor
  tokens : Array Token
  flowLevel : Nat
  indent : Int
  outer : List Int
  allowKey : Bool
  candidates : List KeyCandidate

namespace Reader

def start (text : List Char) : Reader :=
  ⟨.start text, #[], 0, -1, [], true, []⟩

def push (r : Reader) (t : Token) : Reader :=
  { r with tokens := r.tokens.push t }

def move (r : Reader) (n : Nat) : Reader :=
  { r with cursor := r.cursor.advanceBy n }

/-- Whether the line of a place has ended or the place lies too far back. -/
def isStale (r : Reader) (k : KeyCandidate) : Bool :=
  k.line != r.cursor.line || 1024 < r.cursor.index - k.index

/-- Forgets the places where no key can have started any more. -/
def dropStale (r : Reader) : Result Reader :=
  if r.candidates.any fun k => r.isStale k && k.required then .error .malformed
  else .ok { r with candidates := r.candidates.filter (!r.isStale ·) }

/-- Forgets the place of the current level. -/
def dropCandidate (r : Reader) : Result Reader :=
  if r.candidates.any fun k => k.flowLevel == r.flowLevel && k.required then .error .malformed
  else .ok { r with candidates := r.candidates.filter (·.flowLevel != r.flowLevel) }

/-- Remembers that a key may start here. -/
def saveCandidate (r : Reader) : Result Reader :=
  if r.allowKey then do
    let required := r.flowLevel == 0 && r.indent == (r.cursor.column : Int)
    let r ← r.dropCandidate
    let k : KeyCandidate := ⟨r.flowLevel, r.tokens.size, required, r.cursor.index, r.cursor.line,
      r.cursor.column⟩
    return { r with candidates := k :: r.candidates }
  else .ok r

/-- Closes the blocks that lie further in than a column. -/
def unwind (r : Reader) (column : Int) : Reader :=
  if r.flowLevel != 0 then r
  else
    let closed := (r.indent :: r.outer).takeWhile (column < ·)
    match (r.indent :: r.outer).drop closed.length with
    | indent :: outer =>
      { r with tokens := r.tokens ++ closed.map fun _ => Token.blockEnd, indent, outer }
    | [] => r

/-- Opens a block at a column, unless one is open there already. -/
def openBlock (r : Reader) (column : Nat) (opening : Token) (place : Nat) : Reader :=
  if r.indent < column then
    { r with
      tokens := r.tokens.insertIdxIfInBounds place opening
      indent := column
      outer := r.indent :: r.outer }
  else r

/-- Moves to the next token over white space, comments and line ends. A key may start in a new
line. -/
def toNextToken : Nat → Reader → Reader
  | 0, r => r
  | bound + 1, r =>
    let c := r.cursor.skipSpaces.skipComment
    if isBreak c.peek then
      toNextToken bound
        { r with cursor := c.lineBreak.2, allowKey := r.allowKey || r.flowLevel == 0 }
    else { r with cursor := c }

/-- A token that ends everything open: a directive, a separator or the end of the text. -/
def closeAll (r : Reader) : Result Reader := do
  let r ← (r.unwind (-1)).dropCandidate
  return { r with allowKey := false }

/-- The start of a bracketed or braced collection. -/
def openFlow (r : Reader) (t : Token) : Result Reader := do
  let r ← r.saveCandidate
  return { r with flowLevel := r.flowLevel + 1, allowKey := true }.move 1 |>.push t

/-- The end of a bracketed or braced collection. -/
def closeFlow (r : Reader) (t : Token) : Result Reader := do
  let r ← r.dropCandidate
  return { r with flowLevel := r.flowLevel - 1, allowKey := false }.move 1 |>.push t

def readFlowEntry (r : Reader) : Result Reader := do
  let r ← { r with allowKey := true }.dropCandidate
  return (r.move 1).push .flowEntry

/-- The dash of a sequence or the question mark of a mapping, which may open a block. -/
def readBlockMark (r : Reader) (opening mark : Token) (allowAfter : Bool) : Result Reader := do
  if r.flowLevel == 0 && !r.allowKey then throw .malformed
  let r := if r.flowLevel == 0 then r.openBlock r.cursor.column opening r.tokens.size else r
  let r ← { r with allowKey := allowAfter }.dropCandidate
  return (r.move 1).push mark

/-- A colon. If a key may have started in this line, then it did. -/
def readValueMark (r : Reader) : Result Reader :=
  match r.candidates.find? (·.flowLevel == r.flowLevel) with
  | some k =>
    -- the mark of the key belongs before tokens that have been read since
    let r := { r with
      candidates := r.candidates.filter (·.flowLevel != r.flowLevel)
      tokens := r.tokens.insertIdxIfInBounds k.tokenIndex .key
      allowKey := false }
    let r := if r.flowLevel == 0 then r.openBlock k.column .blockMappingStart k.tokenIndex else r
    .ok ((r.move 1).push .value)
  | none => r.readBlockMark .blockMappingStart .value (r.flowLevel == 0)

/-- A token about a node or a scalar in one line, which may be or start a key. -/
def readInline (r : Reader) (read : Cursor → Result (Token × Cursor)) : Result Reader := do
  let r ← r.saveCandidate
  let (t, cursor) ← read r.cursor
  return { r with allowKey := false, cursor }.push t

def readBlockScalar (r : Reader) (folded : Bool) : Result Reader := do
  let r ← { r with allowKey := true }.dropCandidate
  let (text, cursor) ← blockScalar folded r.indent r.cursor
  return { r with cursor }.push (.scalar text false)

/-- A plain scalar. A key may follow it in a new line. -/
def readPlain (r : Reader) : Result Reader := do
  let r ← r.saveCandidate
  let inFlow := r.flowLevel != 0
  let s := plainScalar inFlow (r.indent + 1) (r.cursor.rest.length + 1) ⟨[], [], false, r.cursor⟩
  return { r with allowKey := s.allowKey, cursor := s.cursor }.push
    (.scalar (String.ofList s.text) true)

/-- Whether a plain scalar can start here. -/
def startsPlain (r : Reader) : Bool :=
  let x := r.cursor.peek
  let isMark := "-?:,[]\x7b\x7d#&*!|>'\"%@\x60".toList.contains x
  !(isGap x || isMark)
    || (!isGap (r.cursor.peekAt 1) && (x == '-' || (r.flowLevel == 0 && (x == '?' || x == ':'))))

/-- The next token, the position being at its first character. -/
def readToken (r : Reader) : Result Reader :=
  let c := r.cursor
  let x := c.peek
  let inFlow := r.flowLevel != 0
  let gapFollows := isGap (c.peekAt 1)
  if x == '%' && c.column == 0 then do
    let r ← r.closeAll
    let (d, cursor) ← readDirective r.cursor
    return { r with cursor }.push (.directive d)
  else if c.column == 0 && c.atMarker '-' then do
    return ((← r.closeAll).move 3).push .documentStart
  else if c.column == 0 && c.atMarker '.' then do
    return ((← r.closeAll).move 3).push .documentEnd
  else if x == '[' then r.openFlow .flowSequenceStart
  else if x == '\x7b' then r.openFlow .flowMappingStart
  else if x == ']' then r.closeFlow .flowSequenceEnd
  else if x == '\x7d' then r.closeFlow .flowMappingEnd
  else if x == ',' then r.readFlowEntry
  else if x == '-' && gapFollows then r.readBlockMark .blockSequenceStart .entry true
  else if x == '?' && (inFlow || gapFollows) then
    r.readBlockMark .blockMappingStart .key (!inFlow)
  else if x == ':' && (inFlow || gapFollows) then r.readValueMark
  else if x == '*' then r.readInline fun c => (readAnchor c).map fun (n, c) => (.alias n, c)
  else if x == '&' then r.readInline fun c => (readAnchor c).map fun (n, c) => (.anchor n, c)
  else if x == '!' then r.readInline fun c => (readTag c).map fun (t, c) => (.tag t, c)
  else if (x == '|' || x == '>') && !inFlow then r.readBlockScalar (x == '>')
  else if x == '\'' || x == '"' then
    r.readInline fun c => (quotedScalar c).map fun (s, c) => (.scalar s false, c)
  else if r.startsPlain then r.readPlain
  else .error .malformed

/-- The next token, the position being anywhere before it, or the end of the text. -/
def readNext (r : Reader) : Result Reader := do
  let r ← (toNextToken (r.cursor.rest.length + 1) r).dropStale
  let r := r.unwind r.cursor.column
  if r.cursor.rest.isEmpty then return (← r.closeAll).push .streamEnd
  else r.readToken

/-- The tokens that are settled whatever follows: those before the first place where a key may still
turn out to have started. -/
def settled (r : Reader) : List Token :=
  let places := (r.candidates.filter (!r.isStale ·)).map (·.tokenIndex)
  r.tokens.toList.take (places.foldl min r.tokens.size)

/-- Every token from a state on. A fault that ends them keeps back those that are not settled. -/
def readAll : Nat → Reader → List Token × Option LoadError
  | 0, r => (r.settled, some .malformed)
  | bound + 1, r =>
    match r.readNext with
    | .error e => (r.settled, some e)
    | .ok next =>
      if next.tokens.back? = some .streamEnd then (next.tokens.toList, none)
      else readAll bound next

end Reader

def isDocumentChar (x : Char) : Bool :=
  let n := x.toNat
  n == 9 || n == 10 || n == 13 || (0x20 ≤ n && n ≤ 0x7e) || n == 0x85 || (0xa0 ≤ n && n ≤ 0xd7ff)
    || (0xe000 ≤ n && n ≤ 0xfffd) || 0x10000 ≤ n

/-- The text without a byte-order mark at its start. -/
def dropByteOrderMark : List Char → List Char
  | '\ufeff' :: rest => rest
  | text => text

/-- The tokens of a text, up to the first fault in it. -/
def tokens (text : List Char) : List Token × Option LoadError :=
  if text.all isDocumentChar then
    let text := dropByteOrderMark text
    (Reader.start text).readAll (text.length + 1)
  else ([], some .malformed)

end HubProxy.Document
