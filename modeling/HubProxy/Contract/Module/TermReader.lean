import HubProxy.Contract.Module.Definition
import HubProxy.Decimal.Whole
import HubProxy.Text.Digit
import HubProxy.Text.NormalName
import HubProxy.Text.Word

/-!
# Terms in texts

A text may hold a term: names with what they hold, types applied to arguments, unions, lists, tuples
and written-out values. `readTerm?` reads the term, or fails if the text is none. Every step takes a
word of the text or goes deeper into a bracket, so the steps are bounded by the length of the text.
-/

namespace HubProxy.ContractModule

inductive TermToken where
  | word (text : String)
  | value (v : Literal)
  | dots
  | sign (c : Char)
  deriving Inhabited

/-- The words that cannot be names. -/
def keywords : List String :=
  ["and", "as", "assert", "async", "await", "break", "class", "continue", "def", "del", "elif",
    "else", "except", "finally", "for", "from", "global", "if", "import", "in", "is", "lambda",
    "nonlocal", "not", "or", "pass", "raise", "return", "try", "while", "with", "yield"]

def startsName (c : Char) : Bool :=
  Text.isWord c && !Text.isDecimalDigit c

def continuesName (c : Char) : Bool :=
  Text.isWord c || 0 < Text.combiningClass c

/-- The text up to the closing quote, and what follows it. -/
def readQuoted? (quote : Char) : List Char → Option (List Char × List Char)
  | [] => none
  | '\\' :: c :: rest => do
    let (cs, after) ← readQuoted? quote rest
    let value : List Char :=
      if c == '\\' || c == '\'' || c == '"' then [c]
      else if c == 'n' then ['\n']
      else if c == 't' then ['\t']
      else if c == 'r' then ['\r']
      else if c == '\n' then []
      else ['\\', c]
    return (value ++ cs, after)
  | c :: rest =>
    if c == quote then some ([], rest)
    else if c == '\n' then none
    else do
      let (cs, after) ← readQuoted? quote rest
      return (c :: cs, after)

/-- The number at the start of a text, and what follows it. No name follows a number directly, and
no whole number but zero starts with a zero. -/
def readNumber? (cs : List Char) : Option (Literal × List Char) := do
  let whole := cs.takeWhile Char.isDigit
  let rest := cs.drop whole.length
  let fraction := match rest with
    | '.' :: after => '.' :: after.takeWhile Char.isDigit
    | _ => []
  let rest := rest.drop fraction.length
  let exponent := match rest with
    | e :: sign :: after =>
      if e != 'e' && e != 'E' then []
      else if sign.isDigit then e :: sign :: after.takeWhile Char.isDigit
      else if (sign == '-' || sign == '+') && (after.head?.any Char.isDigit) then
        e :: sign :: after.takeWhile Char.isDigit
      else []
    | _ => []
  let rest := rest.drop exponent.length
  guard !(rest.head?.any Text.isWord)
  if fraction.isEmpty && exponent.isEmpty then
    guard (whole.head? != some '0' || whole.all (· == '0'))
    return (.whole (← Decimal.readWhole? whole), rest)
  else
    return (.real (← Decimal.read? (whole ++ fraction ++ exponent)), rest)

/-- The words of a text. `depth` counts the open brackets, within which lines may end. -/
def termTokens? : Nat → Nat → List Char → Option (List TermToken)
  | _, _, [] => some []
  | 0, _, _ => none
  | steps + 1, depth, '.' :: '.' :: '.' :: rest => do
    return .dots :: (← termTokens? steps depth rest)
  | steps + 1, depth, c :: rest =>
    if c == ' ' || c == '\t' || (c == '\n' && 0 < depth) then termTokens? steps depth rest
    else if c == '#' then termTokens? steps depth (rest.dropWhile (· != '\n'))
    else if startsName c then
      let name := (c :: rest).takeWhile continuesName
      let after := rest.drop (name.length - 1)
      do return .word (String.ofList name) :: (← termTokens? steps depth after)
    else if c == '\'' || c == '"' then do
      let (cs, after) ← readQuoted? c rest
      return .value (.text (String.ofList cs)) :: (← termTokens? steps depth after)
    else if c.isDigit || (c == '.' && rest.head?.any Char.isDigit) then do
      let (v, after) ← readNumber? (c :: rest)
      return .value v :: (← termTokens? steps depth after)
    else if c == '[' || c == '(' then do
      return .sign c :: (← termTokens? steps (depth + 1) rest)
    else if c == ']' || c == ')' then do
      return .sign c :: (← termTokens? steps (depth - 1) rest)
    else if c == '.' || c == ',' || c == '|' || c == '-' then do
      return .sign c :: (← termTokens? steps depth rest)
    else none

def wordTerm? (word : String) : Option TypeTerm :=
  let name := Text.normalName word
  if keywords.contains word then none
  else if name = "None" then some .nothing
  else if name = "True" then some (.literal (.truth true))
  else if name = "False" then some (.literal (.truth false))
  else some (.name name)

def negative? : Literal → Option Literal
  | .whole n => some (.whole (-n))
  | .real x => some (.real (-x))
  | _ => none

mutual

/-- Reads a term or a union of terms. -/
def readUnion : Nat → List TermToken → Option (TypeTerm × List TermToken)
  | 0, _ => none
  | steps + 1, tokens => do
    let (first, rest) ← readPrimary steps tokens
    let (more, rest) ← readAlternatives steps rest
    return (if more.isEmpty then first else .union (first :: more), rest)

def readAlternatives : Nat → List TermToken → Option (List TypeTerm × List TermToken)
  | steps + 1, .sign '|' :: tokens => do
    let (first, rest) ← readPrimary steps tokens
    let (more, rest) ← readAlternatives steps rest
    return (first :: more, rest)
  | _, tokens => some ([], tokens)

/-- Reads a term that is no union. -/
def readPrimary : Nat → List TermToken → Option (TypeTerm × List TermToken)
  | 0, _ => none
  | steps + 1, tokens =>
    match tokens with
    | .word text :: rest => do readTrailers steps (← wordTerm? text) rest
    | .dots :: rest => readTrailers steps .ellipsis rest
    | .value (.text s) :: .value (.text t) :: rest =>
      readPrimary steps (.value (.text (s ++ t)) :: rest)
    | .value v :: rest => readTrailers steps (.literal v) rest
    | .sign '-' :: .value v :: rest => do return (.literal (← negative? v), rest)
    | .sign '(' :: rest => do
      let (items, isTuple, rest) ← readItems steps ')' rest
      match items, isTuple with
      | [item], false => readTrailers steps item rest
      | _, _ => readTrailers steps (.tuple items) rest
    | .sign '[' :: rest => do
      let (items, _, rest) ← readItems steps ']' rest
      readTrailers steps (.list items) rest
    | _ => none

/-- Reads what follows a term: names of what it holds, and arguments. -/
def readTrailers : Nat → TypeTerm → List TermToken → Option (TypeTerm × List TermToken)
  | steps + 1, head, .sign '.' :: .word name :: rest =>
    if keywords.contains name then none
    else readTrailers steps (.member head (Text.normalName name)) rest
  | steps + 1, head, .sign '[' :: rest => do
    let (items, isTuple, rest) ← readItems steps ']' rest
    guard (!items.isEmpty)
    match items, isTuple with
    | [.tuple arguments], false => readTrailers steps (.apply head arguments) rest
    | _, _ => readTrailers steps (.apply head items) rest
  | _, head, tokens => some (head, tokens)

/-- Reads terms between commas up to the closing bracket, and tells whether there was a comma. -/
def readItems : Nat → Char → List TermToken →
    Option (List TypeTerm × Bool × List TermToken)
  | 0, _, _ => none
  | steps + 1, closing, tokens =>
    match tokens with
    | .sign c :: rest =>
      if c = closing then some ([], false, rest) else readFilled steps closing tokens
    | _ => readFilled steps closing tokens

/-- Reads a term and those after it up to the closing bracket. -/
def readFilled : Nat → Char → List TermToken →
    Option (List TypeTerm × Bool × List TermToken)
  | 0, _, _ => none
  | steps + 1, closing, tokens => do
    let (first, rest) ← readUnion steps tokens
    match rest with
    | .sign ',' :: rest => do
      let (more, _, rest) ← readItems steps closing rest
      return (first :: more, true, rest)
    | .sign c :: rest => if c = closing then some ([first], false, rest) else none
    | _ => none

end

/-- A text without the lines at its start that hold nothing but blanks and remarks. The first
argument bounds the number of lines. -/
def dropEmptyLines : Nat → List Char → List Char
  | 0, cs => cs
  | lines + 1, cs =>
    match cs.dropWhile fun c => c == ' ' || c == '\t' with
    | '\n' :: rest => dropEmptyLines lines rest
    | '#' :: rest => dropEmptyLines lines ((rest.dropWhile (· != '\n')).drop 1)
    | _ => cs

/-- The term that a text holds. Apart from empty lines, the text neither starts with a blank nor
goes on after its first line. -/
def readTerm? (text : String) : Option TypeTerm := do
  let isBlank (c : Char) : Bool := c == ' ' || c == '\t' || c == '\n'
  let trimmed := (text.toList.reverse.dropWhile isBlank).reverse
  let cs := dropEmptyLines trimmed.length trimmed
  guard !(cs.head?.any isBlank)
  let tokens ← termTokens? (cs.length + 1) 0 cs
  let steps := 8 * (tokens.length + 2)
  let (items, isTuple, rest) ← readFilled steps ')' (tokens ++ [.sign ')'])
  guard rest.isEmpty
  match items, isTuple with
  | [item], false => some item
  | _, _ => some (.tuple items)

end HubProxy.ContractModule
