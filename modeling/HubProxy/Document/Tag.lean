import HubProxy.Document.Token

/-!
# Tags

A tag says how a node is to be understood. A plain scalar without a tag gets one from its text:
`implicitTag` recognises empty and truth values, numbers, times and the two special keys.
-/

namespace HubProxy.Document

/-- What a node stands for. -/
inductive Tag where
  | null
  | bool
  | int
  | float
  | binary
  | timestamp
  | orderedMapping
  | pairs
  | set
  | text
  | sequence
  | mapping
  /-- The key whose value is merged into the mapping. -/
  | merge
  /-- The key that stands for the value of a mapping as a whole. -/
  | default
  | other
  deriving DecidableEq, Repr

def Tag.names : List (String × Tag) :=
  [("null", .null), ("bool", .bool), ("int", .int), ("float", .float), ("binary", .binary),
    ("timestamp", .timestamp), ("omap", .orderedMapping), ("pairs", .pairs), ("set", .set),
    ("str", .text), ("seq", .sequence), ("map", .mapping), ("merge", .merge),
    ("value", .default)]

/-- What the name of every standard tag starts with. -/
def Tag.standardStart : String := "tag:yaml.org,2002:"

def Tag.ofName (name : String) : Tag :=
  ((Tag.names.find? fun (n, _) => Tag.standardStart ++ n == name).map (·.2)).getD .other

/-- A digit of a base, or an underscore between digits. -/
def isDigitOf (base : Nat) (x : Char) : Bool :=
  x == '_' ||
    match base with
    | 2 => x == '0' || x == '1'
    | 8 => '0' ≤ x && x ≤ '7'
    | 10 => x.isDigit
    | _ => x.isDigit || ('a' ≤ x && x ≤ 'f') || ('A' ≤ x && x ≤ 'F')

/-- The characters without a sign at their start. -/
def dropSign : List Char → List Char
  | '-' :: rest => rest
  | '+' :: rest => rest
  | cs => cs

/-- What follows one or more groups of a colon and a number below sixty. -/
def afterSixtieths? : List Char → Option (List Char)
  | ':' :: a :: b :: rest =>
    if !a.isDigit then none
    else if a ≤ '5' && b.isDigit then some ((afterSixtieths? rest).getD rest)
    else some ((afterSixtieths? (b :: rest)).getD (b :: rest))
  | [':', a] => if a.isDigit then some [] else none
  | _ => none

/-- Whether the characters are an exponent with a sign, or nothing. -/
def isExponent : List Char → Bool
  | [] => true
  | e :: sign :: rest =>
    (e == 'e' || e == 'E') && (sign == '-' || sign == '+') && !rest.isEmpty
      && rest.all Char.isDigit
  | _ => false

/-- Whether the characters are a decimal fraction, which has a point. -/
def isDecimal (cs : List Char) : Bool :=
  match cs with
  | '.' :: d :: rest => d.isDigit && isExponent (rest.dropWhile (isDigitOf 10))
  | _ =>
    match dropSign cs with
    | d :: rest =>
      d.isDigit &&
        match rest.dropWhile (isDigitOf 10) with
        | '.' :: tail => isExponent (tail.dropWhile (isDigitOf 10))
        | _ => false
    | [] => false

/-- Whether the characters are a number in base sixty with a decimal fraction. -/
def isSixtiethDecimal (cs : List Char) : Bool :=
  match dropSign cs with
  | d :: rest =>
    d.isDigit &&
      match afterSixtieths? (rest.dropWhile (isDigitOf 10)) with
      | some ('.' :: tail) => tail.all (isDigitOf 10)
      | _ => false
  | [] => false

/-- The words for what is no finite number. -/
def isSpecialNumber (cs : List Char) : Bool :=
  let word := String.ofList cs
  let unsigned := String.ofList (dropSign cs)
  unsigned ∈ [".inf", ".Inf", ".INF"] || word ∈ [".nan", ".NaN", ".NAN"]

/-- Whether the characters are a whole number in one of five notations. -/
def isWhole (cs : List Char) : Bool :=
  match dropSign cs with
  | ['0'] => true
  | '0' :: 'b' :: rest => !rest.isEmpty && rest.all (isDigitOf 2)
  | '0' :: 'x' :: rest => !rest.isEmpty && rest.all (isDigitOf 16)
  | '0' :: rest => rest.all (isDigitOf 8)
  | d :: rest =>
    let tail := rest.dropWhile (isDigitOf 10)
    d.isDigit && (tail.isEmpty || afterSixtieths? tail == some [])
  | [] => false

/-- A time as it is written, in parts. -/
structure WrittenTime where
  year : List Char
  month : List Char
  day : List Char
  /-- Hour, minute, second and fraction. -/
  clock : Option (List Char × List Char × List Char × List Char)
  /-- The distance from universal time: its sign, hours and minutes; no sign stands for none. -/
  zone : Option (Option Char × List Char × List Char)

/-- Some digits, at least `least` and at most `most`, and what follows them. -/
def takeDigits (least most : Nat) (cs : List Char) : Option (List Char × List Char) :=
  let digits := (cs.take most).takeWhile Char.isDigit
  if least ≤ digits.length then some (digits, cs.drop digits.length) else none

/-- What follows a given character. -/
def expect (x : Char) : List Char → Option (List Char)
  | [] => none
  | y :: rest => if x = y then some rest else none

/-- The distance from universal time at the end of a time, if any is given. -/
def readZone (cs : List Char) : Option (Option (Option Char × List Char × List Char)) :=
  match cs with
  | [] => some none
  | _ =>
    match cs.dropWhile fun x => x == ' ' || x == '\t' with
    | ['Z'] => some (some (none, [], []))
    | sign :: rest =>
      if sign == '-' || sign == '+' then do
        let (hours, rest) ← takeDigits 1 2 rest
        match rest with
        | [] => some (some (some sign, hours, []))
        | _ =>
          let (minutes, rest) ← takeDigits 2 2 (← expect ':' rest)
          if rest.isEmpty then some (some (some sign, hours, minutes)) else none
      else none
    | [] => none

def readClock (cs : List Char) :
    Option ((List Char × List Char × List Char × List Char) ×
      Option (Option Char × List Char × List Char)) := do
  let (hour, cs) ← takeDigits 1 2 cs
  let (minute, cs) ← takeDigits 2 2 (← expect ':' cs)
  let (second, cs) ← takeDigits 2 2 (← expect ':' cs)
  let (fraction, cs) := match cs with
    | '.' :: rest => (rest.takeWhile Char.isDigit, rest.dropWhile Char.isDigit)
    | _ => ([], cs)
  return ((hour, minute, second, fraction), ← readZone cs)

def readTime? (cs : List Char) : Option WrittenTime := do
  let (year, cs) ← takeDigits 4 4 cs
  let (month, cs) ← takeDigits 1 2 (← expect '-' cs)
  let (day, cs) ← takeDigits 1 2 (← expect '-' cs)
  match cs with
  | [] => return ⟨year, month, day, none, none⟩
  | x :: rest =>
    let cs ←
      if x == 'T' || x == 't' then some rest
      else if x == ' ' || x == '\t' then
        some (rest.dropWhile fun x => x == ' ' || x == '\t')
      else none
    let (clock, zone) ← readClock cs
    return ⟨year, month, day, some clock, zone⟩

/-- Whether the characters are a date of ten characters or a date with a time of day. -/
def isTime (cs : List Char) : Bool :=
  match readTime? cs with
  | none => false
  | some t => t.clock.isSome || (t.month.length == 2 && t.day.length == 2)

def trueWords : List String :=
  ["yes", "Yes", "YES", "true", "True", "TRUE", "on", "On", "ON"]

def falseWords : List String :=
  ["no", "No", "NO", "false", "False", "FALSE", "off", "Off", "OFF"]

def nullWords : List String :=
  ["", "~", "null", "Null", "NULL"]

/-- The marks that start a property of a node or an alias. As plain text they stand for themselves,
which no value does. -/
def propertyMarks : List String :=
  ["!", "&", "*"]

/-- The characters without a line feed at their end, if there is one. -/
def dropFinalBreak (cs : List Char) : List Char :=
  if cs.getLast? = some '\n' then cs.dropLast else cs

/-- The text that decides on a tag: a line feed at the end does not count, unless it is all that
there is. -/
def decisiveText (text : String) : String :=
  if text = "\n" then text else String.ofList (dropFinalBreak text.toList)

def implicitTag (text : String) : Tag :=
  let text := decisiveText text
  let cs := text.toList
  if text ∈ trueWords ∨ text ∈ falseWords then .bool
  else if isDecimal cs || isSixtiethDecimal cs || isSpecialNumber cs then .float
  else if isWhole cs then .int
  else if text = "<<" then .merge
  else if text ∈ nullWords then .null
  else if isTime cs then .timestamp
  else if text = "=" then .default
  else if text ∈ propertyMarks then .other
  else .text

end HubProxy.Document
