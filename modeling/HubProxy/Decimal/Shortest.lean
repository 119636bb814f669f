/-!
# Shortest decimals

The shortest decimal that reads back as a given binary floating-point number, and of those of that
length the nearest. A finite number is `m * 2 ^ q`; the reals that round to it form an interval,
which includes its ends if `m` is even. The decimals of a given number of digits form a grid, and if
a point of the grid lies in the interval then so does one of the two neighbours of the number.
-/

namespace HubProxy.Decimal

/-- A positive number as a fraction of naturals, with the ends of the interval of reals that round
to it over the same denominator. -/
structure Target where
  value : Nat
  low : Nat
  high : Nat
  denominator : Nat
  closed : Bool

/-- The target of `m * 2 ^ q`. At the lowest `m` of its exponent, the gap below is half the gap
above. -/
def Target.ofDyadic (m : Nat) (q : Int) (narrowBelow : Bool) : Target :=
  let scale := if 2 ≤ q then Nat.pow 2 (q - 2).toNat else 1
  let denominator := if 2 ≤ q then 1 else Nat.pow 2 (2 - q).toNat
  ⟨4 * m * scale, (4 * m - if narrowBelow then 1 else 2) * scale, (4 * m + 2) * scale, denominator,
    m % 2 == 0⟩

/-- How many decimal digits stand before the point: the least `k` with `value < 10 ^ k`, negative
for small fractions. -/
def Target.magnitude (t : Target) : Int :=
  if t.denominator ≤ t.value then (Nat.toDigits 10 (t.value / t.denominator)).length
  else
    let zeros := (List.range 400).find? fun j => t.denominator ≤ t.value * Nat.pow 10 (j + 1)
    (0 : Int) - (zeros.getD 0 : Nat)

/-- Digits and the power of ten of the last of them. -/
structure Digits where
  coefficient : Nat
  power : Int
  deriving DecidableEq, Repr

/-- A fraction on the grid of a power of ten: numerator and denominator of `value / 10 ^ power`. -/
def Target.onGrid (t : Target) (n : Nat) (power : Int) : Nat × Nat :=
  if 0 ≤ power then (n, t.denominator * Nat.pow 10 power.toNat)
  else (n * Nat.pow 10 (-power).toNat, t.denominator)

/-- Whether a grid point rounds to the target. -/
def Target.accepts (t : Target) (coefficient : Nat) (power : Int) : Bool :=
  let (low, unit) := t.onGrid t.low power
  let (high, _) := t.onGrid t.high power
  let point := coefficient * unit
  if t.closed then low ≤ point && point ≤ high else low < point && point < high

/-- The nearest accepted grid point, the even one of two equally near. -/
def Target.nearestOn (t : Target) (power : Int) : Option Digits :=
  let (value, unit) := t.onGrid t.value power
  let below := value / unit
  let rest := value % unit
  let preferBelow := 2 * rest < unit || (2 * rest == unit && below % 2 == 0)
  let candidates := if preferBelow then [below, below + 1] else [below + 1, below]
  (candidates.find? (t.accepts · power)).map (⟨·, power⟩)

/-- The digits of the shortest decimal that reads back. -/
def Target.shortest (t : Target) : Digits :=
  let k := t.magnitude
  let grids := (List.range 17).map fun n => k - ((n + 1 : Nat) : Int)
  (grids.findSome? t.nearestOn).getD ⟨0, 0⟩

end HubProxy.Decimal
