/-!
# Reading positions

A cursor is a position in a document's text: what is left of it, how much has been read, and the
line and column. The end of the text reads as the NUL character, which no document may contain.
-/

namespace HubProxy.Document

structure Cursor where
  rest : List Char
  index : Nat
  line : Nat
  column : Nat

def Cursor.start (text : List Char) : Cursor :=
  ⟨text, 0, 0, 0⟩

def Cursor.peekAt (c : Cursor) (n : Nat) : Char :=
  c.rest.getD n '\x00'

def Cursor.peek (c : Cursor) : Char :=
  match c.rest with
  | [] => '\x00'
  | x :: _ => x

def isBreak (x : Char) : Bool :=
  x == '\n' || x == '\r' || x == '\x85' || x == '\u2028' || x == '\u2029'

/-- The characters that end a line, or the end of the text. -/
def isBreakOrEnd (x : Char) : Bool :=
  isBreak x || x == '\x00'

/-- A space, the end of a line or the end of the text. -/
def isSpaceOrEnd (x : Char) : Bool :=
  isBreakOrEnd x || x == ' '

/-- A space or a tab, the end of a line or the end of the text. -/
def isGap (x : Char) : Bool :=
  isSpaceOrEnd x || x == '\t'

/-- The position one character on. A carriage return directly before a line feed does not end its
line, and a byte-order mark takes no column. -/
def Cursor.advance (c : Cursor) : Cursor :=
  match c.rest with
  | [] => c
  | x :: rest =>
    if x == '\r' && rest.head? == some '\n' then ⟨rest, c.index + 1, c.line, c.column + 1⟩
    else if isBreak x then ⟨rest, c.index + 1, c.line + 1, 0⟩
    else ⟨rest, c.index + 1, c.line, if x == '\ufeff' then c.column else c.column + 1⟩

def Cursor.advanceBy (c : Cursor) : Nat → Cursor
  | 0 => c
  | n + 1 => c.advance.advanceBy n

/-- The longest run of characters with a property from the position on. -/
def Cursor.run (c : Cursor) (p : Char → Bool) : List Char :=
  c.rest.takeWhile p

/-- The position after the longest run of characters with a property. -/
def Cursor.skip (c : Cursor) (p : Char → Bool) : Cursor :=
  c.advanceBy (c.run p).length

def Cursor.skipSpaces (c : Cursor) : Cursor :=
  c.skip (· == ' ')

/-- The position after a comment, if one starts here. -/
def Cursor.skipComment (c : Cursor) : Cursor :=
  if c.peek == '#' then c.skip (!isBreakOrEnd ·) else c

/-- The line break at the position, as it counts in a scalar, and the position after it. Only the
two separators of Unicode stay what they are; without a break there is nothing to read. -/
def Cursor.lineBreak (c : Cursor) : List Char × Cursor :=
  match c.rest with
  | '\r' :: '\n' :: _ => (['\n'], c.advanceBy 2)
  | x :: _ =>
    if x == '\u2028' || x == '\u2029' then ([x], c.advance)
    else if isBreak x then (['\n'], c.advance)
    else ([], c)
  | [] => ([], c)

/-- Whether a line of three equal marks starts here, which separates documents. -/
def Cursor.atMarker (c : Cursor) (mark : Char) : Bool :=
  c.rest.take 3 == [mark, mark, mark] && isGap (c.peekAt 3)

/-- Whether a document separator of either kind starts here. -/
def Cursor.atSeparator (c : Cursor) : Bool :=
  c.atMarker '-' || c.atMarker '.'

end HubProxy.Document
