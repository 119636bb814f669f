import HubProxy.Document.Cursor
import HubProxy.Document.Error
import HubProxy.Text.Hex

/-!
# Scalars in a document's text

A scalar is written plain, between single or double quotes, or as an indented block. Each reader
starts at a cursor and gives the text of the scalar and the cursor after it. Loops take a bound on
their length, which is the length of the text that is left.
-/

namespace HubProxy.Document

/-! ## Quoted scalars -/

/-- The line breaks from here on, with the white space around them dropped. -/
def quotedBreaks : Nat → Cursor → List Char → Result (List Char × Cursor)
  | 0, _, _ => .error .malformed
  | bound + 1, c, done =>
    if c.atSeparator then .error .malformed
    else
      let c := c.skip fun x => x == ' ' || x == '\t'
      if isBreak c.peek then
        let (lineFeed, c) := c.lineBreak
        quotedBreaks bound c (done ++ lineFeed)
      else .ok (done, c)

/-- White space inside a quoted scalar. A single line break counts as a space; of several the first
is dropped. -/
def quotedSpaces (c : Cursor) : Result (List Char × Cursor) :=
  let blanks := c.run fun x => x == ' ' || x == '\t'
  let c := c.advanceBy blanks.length
  if c.rest.isEmpty then .error .malformed
  else if isBreak c.peek then do
    let (first, c) := c.lineBreak
    let (breaks, c) ← quotedBreaks (c.rest.length + 1) c []
    let joint := if first ≠ ['\n'] then first else if breaks.isEmpty then [' '] else []
    return (joint ++ breaks, c)
  else .ok (blanks, c)

def namedEscape? : Char → Option Char
  | '0' => some '\x00'
  | 'a' => some '\x07'
  | 'b' => some '\x08'
  | 't' => some '\t'
  | '\t' => some '\t'
  | 'n' => some '\n'
  | 'v' => some '\x0b'
  | 'f' => some '\x0c'
  | 'r' => some '\r'
  | 'e' => some '\x1b'
  | ' ' => some ' '
  | '"' => some '"'
  | '\\' => some '\\'
  | '/' => some '/'
  | 'N' => some '\x85'
  | '_' => some '\xa0'
  | 'L' => some '\u2028'
  | 'P' => some '\u2029'
  | _ => none

/-- How many digits the code has that an escape announces. -/
def escapeWidth? : Char → Option Nat
  | 'x' => some 2
  | 'u' => some 4
  | 'U' => some 8
  | _ => none

def charOfCode (code : Nat) : Result Char :=
  if code < 0x110000 then .ok (Char.ofNat code)
  else if code < 0x80000000 then .error .badNumber
  else .error .tooLarge

/-- An escape, from the backslash on. An escaped line break is dropped together with the white space
that follows it. -/
def escape (c : Cursor) : Result (List Char × Cursor) :=
  let c := c.advance
  let x := c.peek
  match namedEscape? x, escapeWidth? x with
  | some plain, _ => .ok ([plain], c.advance)
  | none, some width => do
    let c := c.advance
    let digits := c.rest.take width
    match Text.readDigits? 16 digits with
    | some code =>
      if digits.length < width then .error .malformed
      else return ([← charOfCode code], c.advanceBy width)
    | none => .error .malformed
  | none, none =>
    if isBreak x then
      let (_, c) := c.lineBreak
      quotedBreaks (c.rest.length + 1) c []
    else .error .malformed

/-- The part of a quoted scalar up to its next white space or its closing quote. -/
def quotedWord (isDouble : Bool) : Nat → Cursor → List Char → Result (List Char × Cursor)
  | 0, _, _ => .error .malformed
  | bound + 1, c, done => do
    let plain := c.run fun x => !(x == '\'' || x == '"' || x == '\\' || isGap x)
    let c := c.advanceBy plain.length
    let done := done ++ plain
    let x := c.peek
    if !isDouble && x == '\'' && c.peekAt 1 == '\'' then
      quotedWord isDouble bound (c.advanceBy 2) (done ++ ['\''])
    else if (isDouble && x == '\'') || (!isDouble && (x == '"' || x == '\\')) then
      quotedWord isDouble bound c.advance (done ++ [x])
    else if isDouble && x == '\\' then
      let (chars, c) ← escape c
      quotedWord isDouble bound c (done ++ chars)
    else return (done, c)

/-- The rest of a quoted scalar, words and white space in turn. -/
def quotedRest (quote : Char) : Nat → Cursor → List Char → Result (List Char × Cursor)
  | 0, _, _ => .error .malformed
  | bound + 1, c, done =>
    if c.peek == quote then .ok (done, c.advance)
    else do
      let (blanks, c) ← quotedSpaces c
      let (word, c) ← quotedWord (quote == '"') (c.rest.length + 1) c []
      quotedRest quote bound c (done ++ blanks ++ word)

/-- A quoted scalar, from its opening quote on. -/
def quotedScalar (c : Cursor) : Result (String × Cursor) := do
  let quote := c.peek
  let c := c.advance
  let (word, c) ← quotedWord (quote == '"') (c.rest.length + 1) c []
  let (chars, c) ← quotedRest quote (c.rest.length + 1) c word
  return (String.ofList chars, c)

/-! ## Plain scalars -/

/-- The line breaks inside a plain scalar after the first, or nothing if a document separator
follows one of them. -/
def plainBreaks : Nat → Cursor → List Char → Option (List Char) × Cursor
  | 0, c, done => (some done, c)
  | bound + 1, c, done =>
    if c.peek == ' ' then plainBreaks bound c.advance done
    else if isBreak c.peek then
      let (lineFeed, c) := c.lineBreak
      if c.atSeparator then (none, c) else plainBreaks bound c (done ++ lineFeed)
    else (some done, c)

/-- White space inside a plain scalar and whether it holds a line break. Where a document separator
follows, it counts as nothing. -/
def plainSpaces (c : Cursor) : List Char × Bool × Cursor :=
  let blanks := c.run (· == ' ')
  let c := c.advanceBy blanks.length
  if isBreak c.peek then
    let (first, c) := c.lineBreak
    if c.atSeparator then ([], true, c)
    else
      match plainBreaks (c.rest.length + 1) c [] with
      | (none, c) => ([], true, c)
      | (some breaks, c) =>
        let joint := if first ≠ ['\n'] then first else if breaks.isEmpty then [' '] else []
        (joint ++ breaks, true, c)
  else (blanks, false, c)

/-- The characters that a plain scalar cannot hold inside brackets or braces. -/
def isFlowMark (x : Char) : Bool :=
  x == ',' || x == '?' || x == '[' || x == ']' || x == '\x7b' || x == '\x7d'

/-- The length of the part of a plain scalar without white space. A colon belongs to it unless white
space follows, or a mark inside brackets or braces. -/
def plainLength (inFlow : Bool) : List Char → Nat
  | [] => 0
  | x :: rest =>
    let next := rest.head?.getD '\x00'
    let endsHere := isGap x
      || (x == ':' && (isGap next || (inFlow && isFlowMark next && next != '?')))
      || (inFlow && isFlowMark x)
    if endsHere then 0 else plainLength inFlow rest + 1

/-- The state of reading a plain scalar: its text so far, the white space after it, whether a simple
key may follow, and the position. -/
structure PlainScalar where
  text : List Char
  spaces : List Char
  allowKey : Bool
  cursor : Cursor

/-- A plain scalar, given the least column at which it may go on in another line. -/
def plainScalar (inFlow : Bool) (indent : Int) : Nat → PlainScalar → PlainScalar
  | 0, s => s
  | bound + 1, s =>
    if s.cursor.peek == '#' then s
    else
      let length := plainLength inFlow s.cursor.rest
      if length = 0 then s
      else
        let text := s.text ++ s.spaces ++ s.cursor.rest.take length
        let (spaces, broken, c) := plainSpaces (s.cursor.advanceBy length)
        let s : PlainScalar := ⟨text, spaces, broken, c⟩
        if spaces.isEmpty || c.peek == '#' || (!inFlow && (c.column : Int) < indent) then s
        else plainScalar inFlow indent bound s

/-! ## Block scalars -/

/-- What becomes of the line breaks at the end of a block scalar. -/
inductive Chomping where
  | clip
  | strip
  | keep
  deriving DecidableEq

/-- The chomping mark at a position, if there is one. -/
def chompingMark (c : Cursor) : Option Chomping :=
  if c.peek == '+' then some .keep else if c.peek == '-' then some .strip else none

/-- The indentation digit at a position, if there is one. -/
def indentDigit (c : Cursor) : Result (Option Nat) :=
  if c.peek.isDigit then
    if c.peek == '0' then .error .malformed else .ok (some (c.peek.toNat - '0'.toNat))
  else .ok none

/-- The marks after the indicator of a block scalar, in either order. -/
def blockHeader (c : Cursor) : Result (Chomping × Option Nat × Cursor) := do
  let (chomping, increment, c) ← match chompingMark c with
    | some chomping => do
      let c := c.advance
      let increment ← indentDigit c
      pure (chomping, increment, if increment.isSome then c.advance else c)
    | none => do
      let increment ← indentDigit c
      if increment.isSome then
        let c := c.advance
        match chompingMark c with
        | some chomping => pure (chomping, increment, c.advance)
        | none => pure (Chomping.clip, increment, c)
      else pure (Chomping.clip, none, c)
  if isSpaceOrEnd c.peek then return (chomping, increment, c) else .error .malformed

/-- The rest of a line that may hold a comment only, with its end. -/
def ignoredLine (c : Cursor) : Result Cursor :=
  let c := c.skipSpaces.skipComment
  if isBreakOrEnd c.peek then .ok c.lineBreak.2 else .error .malformed

/-- The empty lines before a block scalar and the largest column that white space reaches there. -/
def blockIndentation : Nat → Cursor → List Char → Nat → List Char × Nat × Cursor
  | 0, c, breaks, column => (breaks, column, c)
  | bound + 1, c, breaks, column =>
    if c.peek == ' ' then
      let c := c.advance
      blockIndentation bound c breaks (max column c.column)
    else if isBreak c.peek then
      let (lineFeed, c) := c.lineBreak
      blockIndentation bound c (breaks ++ lineFeed) column
    else (breaks, column, c)

def skipIndent (indent : Nat) (c : Cursor) : Cursor :=
  c.advanceBy ((c.run (· == ' ')).take (indent - c.column)).length

/-- The empty lines from here on and the indentation of the line after them. -/
def blockBreaks (indent : Nat) : Nat → Cursor → List Char → List Char × Cursor
  | 0, c, breaks => (breaks, c)
  | bound + 1, c, breaks =>
    let c := skipIndent indent c
    if isBreak c.peek then
      let (lineFeed, c) := c.lineBreak
      blockBreaks indent bound c (breaks ++ lineFeed)
    else (breaks, c)

/-- The lines of a block scalar: the text, the break after its last line and the empty lines at its
end. In a folded scalar the break between two lines of text counts as a space. -/
def blockLines (folded : Bool) (indent : Nat) :
    Nat → Cursor → List Char → List Char → List Char → List Char × List Char × List Char × Cursor
  | 0, c, done, last, breaks => (done, last, breaks, c)
  | bound + 1, c, done, last, breaks =>
    if c.column = indent && !c.rest.isEmpty then
      let startsText := !(c.peek == ' ' || c.peek == '\t')
      let line := c.run (!isBreakOrEnd ·)
      let (last, c) := (c.advanceBy line.length).lineBreak
      let done := done ++ breaks ++ line
      let (breaks, c) := blockBreaks indent (c.rest.length + 1) c []
      if c.column = indent && !c.rest.isEmpty then
        let folds := folded && last == ['\n'] && startsText && !(c.peek == ' ' || c.peek == '\t')
        let joint := if folds then (if breaks.isEmpty then [' '] else []) else last
        blockLines folded indent bound c (done ++ joint) last breaks
      else (done, last, breaks, c)
    else (done, last, breaks, c)

/-- A block scalar, from its indicator on, given the indentation of the block around it. -/
def blockScalar (folded : Bool) (around : Int) (c : Cursor) : Result (String × Cursor) := do
  let (chomping, increment, c) ← blockHeader c.advance
  let c ← ignoredLine c
  let least := max 1 (around + 1).toNat
  let (indent, breaks, c) := match increment with
    | some n =>
      let indent := least + n - 1
      (indent, blockBreaks indent (c.rest.length + 1) c [])
    | none =>
      let (breaks, column, c) := blockIndentation (c.rest.length + 1) c [] 0
      (max least column, breaks, c)
  let (text, last, breaks, c) := blockLines folded indent (c.rest.length + 1) c [] [] breaks
  let tail := match chomping with
    | .strip => []
    | .clip => last
    | .keep => last ++ breaks
  return (String.ofList (text ++ tail), c)

end HubProxy.Document
