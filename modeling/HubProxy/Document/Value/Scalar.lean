import HubProxy.Decimal.Whole
import HubProxy.Document.Error
import HubProxy.Document.Tag
import HubProxy.Document.Value
import HubProxy.Text.Digit
import HubProxy.Text.LowerCase

/-!
# Reading scalars

The value that a scalar's text has under each tag. A text that a tag was put on by hand need not fit
it, so every reader can fail.
-/

namespace HubProxy.Document

/-- The text without underscores. -/
def withoutUnderscores (text : String) : List Char :=
  text.toList.filter (· != '_')

def baseMark? : Nat → Option Char
  | 2 => some 'b'
  | 8 => some 'o'
  | 16 => some 'x'
  | _ => none

/-- The digits of a base without its mark. -/
def dropBaseMark (base : Nat) (cs : List Char) : List Char :=
  match cs with
  | '0' :: mark :: rest => if baseMark? base == some mark.toLower then rest else cs
  | _ => cs

/-- The number that digits of a base stand for. Only decimal ones are limited in number. -/
def readBaseDigits? (base : Nat) (digits : List Char) : Option Nat :=
  if base = 10 then Decimal.readWhole? digits else Text.readDigits? base digits

/-- A whole number in a base, with a sign or a mark of the base if it likes. -/
def readInteger (base : Nat) (cs : List Char) : Result Int :=
  let cs := Text.numeral cs
  let digits := dropBaseMark base (dropSign cs)
  match digits, readBaseDigits? base digits with
  | _ :: _, some n => .ok (if cs.head? == some '-' then -(n : Int) else n)
  | _, _ => .error .badNumber

def splitColons (cs : List Char) : List (List Char) :=
  match cs with
  | [] => [[]]
  | ':' :: rest => [] :: splitColons rest
  | c :: rest =>
    match splitColons rest with
    | part :: more => (c :: part) :: more
    | [] => [[c]]

/-- Whether the text starts with a minus sign, and the text without a sign. It must not be empty. -/
def splitSign (cs : List Char) : Result (Bool × List Char) :=
  if cs.isEmpty then .error .emptyNumber else .ok (cs.head? == some '-', dropSign cs)

/-- A decimal number, or the digits of one in base sixty between colons. -/
def readSixtieths (cs : List Char) : Result Int := do
  let digits ← (splitColons cs).mapM (readInteger 10)
  return digits.foldl (fun n digit => n * 60 + digit) 0

/-- A whole number: decimal, binary, octal after a zero, hexadecimal or in base sixty. -/
def readWhole (text : String) : Result Int := do
  let (negative, cs) ← splitSign (withoutUnderscores text)
  let size ← match cs with
    | [] => .error .emptyNumber
    | ['0'] => .ok 0
    | '0' :: 'b' :: digits => readInteger 2 digits
    | '0' :: 'x' :: digits => readInteger 16 digits
    | '0' :: _ => readInteger 8 cs
    | _ => readSixtieths cs
  return if negative then -size else size

/-- The largest number of places in base sixty that a fraction can have: the value of the first
place has to be a finite number. -/
def sixtiethPlaces : Nat := 174

/-- A number in base sixty, the fraction belonging to the last digit. Places are added from the last
one on. -/
def addSixtieths (digits : List Float) : Result Float :=
  if sixtiethPlaces < digits.length then .error .tooLarge
  else
    .ok (digits.reverse.zipIdx.foldl (fun sum (digit, place) =>
      sum + digit * Decimal.nearest (Nat.pow 60 place) 0) 0.0)

/-- A fraction: decimal, in base sixty, or a word for what is no finite number. What is no number at
all is known by `origin`, but for the one that the word stands for. -/
def readFraction (origin : Nat) (text : String) : Result Scalar := do
  let (negative, cs) ← splitSign ((withoutUnderscores text).map Char.toLower)
  let part (cs : List Char) : Result Float :=
    match Decimal.read? (Text.numeral cs) with
    | some x => .ok x
    | none => .error .badNumber
  let signed (x : Float) : Scalar :=
    if x.isNaN then .notANumber (some origin) else .float (if negative then -x else x)
  if cs = ".inf".toList then return signed (1.0 / 0.0)
  else if cs = ".nan".toList then return .notANumber none
  else if cs.contains ':' then return signed (← addSixtieths (← (splitColons cs).mapM part))
  else return signed (← part cs)

/-- A word for a truth value, in any casing. -/
def readTruth (text : String) : Result Bool :=
  let word := Text.lower text
  if word ∈ ["yes", "true", "on"] then .ok true
  else if word ∈ ["no", "false", "off"] then .ok false
  else .error (.unknownWord word)

/-- The distance from universal time that a written zone stands for. -/
def readZoneSeconds : Option Char × List Char × List Char → Int
  | (none, _, _) => 0
  | (some sign, hours, minutes) =>
    let seconds := (Decimal.digitsValue hours * 60 + Decimal.digitsValue minutes) * 60
    if sign = '-' then -(seconds : Int) else seconds

/-- A day or a time, possibly with a line feed after it. -/
def readTime (text : String) : Result Scalar :=
  match readTime? (dropFinalBreak text.toList) with
  | none => .error .noTimestamp
  | some t =>
    let date : Date :=
      ⟨Decimal.digitsValue t.year, Decimal.digitsValue t.month, Decimal.digitsValue t.day⟩
    match t.clock with
    | none => if date.isValid then .ok (.date date) else .error .badNumber
    | some (hour, minute, second, fraction) =>
      let six := (fraction ++ List.replicate 6 '0').take 6
      let time : DateTime := {
        date
        hour := Decimal.digitsValue hour
        minute := Decimal.digitsValue minute
        second := Decimal.digitsValue second
        microsecond := Decimal.digitsValue six
        zone := t.zone.map readZoneSeconds }
      if time.isValid then .ok (.time time) else .error .badNumber

def base64Value? (c : Char) : Option Nat :=
  if 'A' ≤ c ∧ c ≤ 'Z' then some (c.toNat - 'A'.toNat)
  else if 'a' ≤ c ∧ c ≤ 'z' then some (c.toNat - 'a'.toNat + 26)
  else if '0' ≤ c ∧ c ≤ '9' then some (c.toNat - '0'.toNat + 52)
  else if c = '+' then some 62
  else if c = '/' then some 63
  else none

/-- The bytes that base-64 characters stand for. `group` holds the characters of the current group
of four and `pads` counts the equals signs since the last of them. Characters outside the alphabet
are passed over, and a group that has been padded out ends the data. -/
def readBase64 : List Char → List Nat → Nat → List UInt8 → Result (List UInt8)
  | [], group, _, done => if group.isEmpty then .ok done.reverse else .error .malformed
  | c :: rest, group, pads, done =>
    if c = '=' then
      if 2 ≤ group.length then
        if 4 ≤ group.length + pads + 1 then .ok done.reverse
        else readBase64 rest group (pads + 1) done
      else readBase64 rest group pads done
    else
      match base64Value? c, group with
      | none, _ => readBase64 rest group pads done
      | some n, [] => readBase64 rest [n] 0 done
      | some n, [a] => readBase64 rest [a, n] 0 (UInt8.ofNat (a * 4 + n / 16) :: done)
      | some n, [a, b] => readBase64 rest [a, b, n] 0 (UInt8.ofNat (b % 16 * 16 + n / 4) :: done)
      | some n, _ :: _ :: d :: _ => readBase64 rest [] 0 (UInt8.ofNat (d % 4 * 64 + n) :: done)

/-- Bytes written in base 64, which uses ASCII only. -/
def readBytes (text : String) : Result (List UInt8) :=
  if text.toList.all fun c => c.toNat < 128 then readBase64 text.toList [] 0 []
  else .error .malformed

end HubProxy.Document
