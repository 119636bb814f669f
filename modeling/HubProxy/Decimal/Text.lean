import HubProxy.Decimal.Shortest

/-!
# Floating-point numbers as text

Writing uses the fewest digits that read back. A number whose decimal point falls among or near its
digits is written out, with at least one digit on each side of the point; any other gets an exponent
of at least two digits. Reading accepts the same forms and rounds to the nearest number.
-/

namespace HubProxy.Decimal

/-- The digits of a number without the zeros at its end, and how many those are. -/
def trimZeros (coefficient : Nat) : List Char × Nat :=
  let reversed := (Nat.toDigits 10 coefficient).reverse
  let zeros := (reversed.takeWhile (· == '0')).length
  ((reversed.drop zeros).reverse, zeros)

/-- Decimal digits with the point after the first `point` of them. -/
def placePoint (digits : List Char) (point : Int) : String :=
  let zeros (n : Int) := List.replicate n.toNat '0'
  if point ≤ 0 then String.ofList (['0', '.'] ++ zeros (-point) ++ digits)
  else if point < digits.length then
    String.ofList (digits.take point.toNat ++ '.' :: digits.drop point.toNat)
  else String.ofList (digits ++ zeros (point - digits.length) ++ ['.', '0'])

/-- Decimal digits with the point after the first of them and an exponent. -/
def withExponent (digits : List Char) (exponent : Int) : String :=
  let mantissa := match digits with
    | [] => []
    | [d] => [d]
    | d :: rest => d :: '.' :: rest
  let size := toString exponent.natAbs
  String.ofList mantissa ++ (if exponent < 0 then "e-" else "e+")
    ++ (if size.length < 2 then "0" ++ size else size)

/-- A positive number as text: written out from `0.0001` up to below `10 ^ 16`. -/
def Digits.text (d : Digits) : String :=
  let (digits, zeros) := trimZeros d.coefficient
  let point := d.power + (zeros : Int) + (digits.length : Int)
  if -4 < point ∧ point ≤ 16 then placePoint digits point else withExponent digits (point - 1)

/-- The parts of a floating-point number: sign, biased exponent and fraction. -/
def parts (x : Float) : Bool × Nat × Nat :=
  let bits := x.toBits.toNat
  (Nat.pow 2 63 ≤ bits, bits / Nat.pow 2 52 % Nat.pow 2 11, bits % Nat.pow 2 52)

/-- The finite number that exponent and fraction stand for, as `m * 2 ^ q`. -/
def dyadic (exponent fraction : Nat) : Nat × Int :=
  if exponent = 0 then (fraction, -1074) else (Nat.pow 2 52 + fraction, (exponent : Int) - 1075)

/-- A floating-point number without its fraction, and whether it has one. -/
def split? (x : Float) : Option (Int × Bool) :=
  let (negative, exponent, fraction) := parts x
  let (m, q) := dyadic exponent fraction
  let divisor := Nat.pow 2 (-q).toNat
  let size := m / divisor * Nat.pow 2 q.toNat
  if exponent = 2047 then none
  else some (if negative then -(size : Int) else size, m % divisor != 0)

/-- The whole number that is left of a floating-point number without its fraction. -/
def truncate? (x : Float) : Option Int :=
  (split? x).map (·.1)

/-- The whole number that a floating-point number is, if it is one. -/
def wholeOf? (x : Float) : Option Int :=
  (split? x).bind fun (n, isBroken) => if isBroken then none else some n

def text (x : Float) : String :=
  let (negative, exponent, fraction) := parts x
  let sign := if negative then "-" else ""
  if exponent = 2047 then if fraction = 0 then sign ++ "inf" else "nan"
  else
    let (m, q) := dyadic exponent fraction
    if m = 0 then sign ++ "0.0"
    else sign ++ (Target.ofDyadic m q (fraction == 0 && 1 < exponent)).shortest.text

/-- The nearest floating-point number to `coefficient * 10 ^ exponent`. -/
def nearest (coefficient : Nat) (exponent : Int) : Float :=
  let size : Int := (Nat.toDigits 10 coefficient).length
  if coefficient = 0 ∨ size + exponent < -400 then 0.0
  else if 400 < size + exponent then 1.0 / 0.0
  else if 0 ≤ exponent then Float.ofScientific (coefficient * Nat.pow 10 exponent.toNat) false 0
  else Float.ofScientific coefficient true (-exponent).toNat

def digitsValue (digits : List Char) : Nat :=
  digits.foldl (fun n c => n * 10 + (c.toNat - '0'.toNat)) 0

/-- The exponent part of a number, which may be missing but must be complete. -/
def exponent? : List Char → Option Int
  | [] => some 0
  | e :: rest =>
    if e == 'e' || e == 'E' then
      let (negative, digits) := match rest with
        | '-' :: digits => (true, digits)
        | '+' :: digits => (false, digits)
        | digits => (false, digits)
      if !digits.isEmpty && digits.all Char.isDigit then
        let n : Int := digitsValue digits
        some (if negative then -n else n)
      else none
    else none

/-- The number without a sign that a text stands for. -/
def unsigned? (cs : List Char) : Option Float :=
  let lower := cs.map Char.toLower
  if lower = "inf".toList ∨ lower = "infinity".toList then some (1.0 / 0.0)
  else if lower = "nan".toList then some (0.0 / 0.0)
  else
    let whole := cs.takeWhile Char.isDigit
    let rest := cs.drop whole.length
    let (fraction, tail) := match rest with
      | '.' :: after => (after.takeWhile Char.isDigit, after.dropWhile Char.isDigit)
      | _ => ([], rest)
    if whole.isEmpty && fraction.isEmpty then none
    else
      (exponent? tail).map fun e => nearest (digitsValue (whole ++ fraction)) (e - fraction.length)

/-- The number that a text in common digits stands for. -/
def read? (cs : List Char) : Option Float :=
  match cs with
  | '-' :: rest => (unsigned? rest).map (-·)
  | '+' :: rest => unsigned? rest
  | rest => unsigned? rest

end HubProxy.Decimal
