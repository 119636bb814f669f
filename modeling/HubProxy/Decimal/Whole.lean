import HubProxy.Text.Hex

/-!
# Whole numbers in decimal

A whole number is read from and shown in a limited number of decimal digits, since the time that
takes grows faster than their number. A number of any size may be held, and one that was written in
another base can be too long to be shown.
-/

namespace HubProxy.Decimal

/-- The largest number of decimal digits that are read or shown, zeros at the start included. -/
def digitLimit : Nat := 4300

/-- The number that decimal digits stand for, unless there are too many of them. -/
def readWhole? (digits : List Char) : Option Nat :=
  if digits.length ≤ digitLimit then Text.readDigits? 10 digits else none

/-- The decimal digits of a number with its sign, unless there are too many of them. -/
def wholeText? (n : Int) : Option String :=
  if n.natAbs < Nat.pow 10 digitLimit then some (toString n) else none

end HubProxy.Decimal
