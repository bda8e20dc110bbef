import Telemetry.Double.Order

/-!
# The fewest digits that read back as the same double

A positive finite double stands for `m · 2 ^ q`. Reading decimal text rounds to
the nearest double, a half going to an even `m`, so the numbers that read back
as this double form an interval around it, with both ends included exactly if
`m` is even. `Double.shortest` finds the coarsest decimal grid with a point in
that interval, and on it the point nearest to the double.

All arithmetic is exact: a number is kept as a numerator over one denominator
that the double, its interval and the grid share.
-/

namespace Telemetry.Double

/-- What to take of two grid points equally near to a double. -/
inductive TieRule
  | upper
  | evenDigit
  deriving DecidableEq, Repr

/-- A positive decimal number `digits · 10 ^ exponent`. -/
structure Decimal where
  digits : Nat
  exponent : Int
  deriving DecidableEq, Repr

/-- The bit that stands in front of the fraction bits of a double, but for the smallest ones. -/
def leadingBit : Nat := 0x10000000000000

/-- The number that a positive finite double stands for, as `m · 2 ^ q`. -/
def binary (x : Float) : Nat × Int :=
  let fraction := magnitude x % leadingBit
  match magnitude x / leadingBit with
  | 0 => (fraction, -1074)
  | e + 1 => (leadingBit + fraction, (e : Int) - 1074)

/-- A double and the ends of its reading interval as fractions over `unit`, where
`unit` stands for one step of the decimal grid `10 ^ exponent`. -/
structure Scaled where
  low : Nat
  value : Nat
  high : Nat
  unit : Nat

/-- The interval of `m · 2 ^ q` in steps of `10 ^ exponent`. Below a power of two
the doubles are twice as dense, so the lower end is then half as far away. -/
def scaled (m : Nat) (q : Int) (exponent : Int) : Scaled :=
  let gap := if m = leadingBit ∧ q ≠ -1074 then 1 else 2
  let num := Nat.pow 2 (q - 2).toNat * Nat.pow 10 (-exponent).toNat
  let den := Nat.pow 2 (2 - q).toNat * Nat.pow 10 exponent.toNat
  ⟨(4 * m - gap) * num, 4 * m * num, (4 * m + 2) * num, den⟩

/-- Whether the grid point with the given digits reads back as the double. -/
def Scaled.holds (s : Scaled) (even : Bool) (digits : Nat) : Bool :=
  let p := digits * s.unit
  if even then s.low ≤ p ∧ p ≤ s.high else s.low < p ∧ p < s.high

/-- The nearest grid point that reads back as the double, if one does: it can only
be one of the two neighbours of the double. -/
def Scaled.nearest? (s : Scaled) (even : Bool) (tie : TieRule) : Option Nat :=
  let below := s.value / s.unit
  let above := below + 1
  match s.holds even below, s.holds even above with
  | false, false => none
  | true, false => some below
  | false, true => some above
  | true, true =>
    let toBelow := s.value - below * s.unit
    let toAbove := above * s.unit - s.value
    if toBelow < toAbove then some below
    else if toAbove < toBelow then some above
    else match tie with
      | .upper => some above
      | .evenDigit => some (if below % 2 = 0 then below else above)

/-- The number of decimal digits of a positive integer. -/
def digitCount (n : Nat) : Nat := (Nat.toDigits 10 n).length

/-- The exponent `e` with `10 ^ e ≤ m · 2 ^ q < 10 ^ (e + 1)`, for positive `m`. -/
def leadingExponent (m : Nat) (q : Int) : Int :=
  if 0 ≤ q then (digitCount (m * Nat.pow 2 q.toNat) : Int) - 1
  else
    -- `m / 2 ^ k` has the leading digit of `m · 5 ^ k`, `k` places further down
    let k := (-q).toNat
    (digitCount (m * Nat.pow 5 k) : Int) - 1 - k

/-- Drops trailing zero digits; `fuel` bounds how many. -/
def Decimal.trimZeros : Nat → Decimal → Decimal
  | 0, d => d
  | fuel + 1, d =>
    if d.digits ≠ 0 ∧ d.digits % 10 = 0 then
      trimZeros fuel ⟨d.digits / 10, d.exponent + 1⟩
    else d

/-- Tries the grids with `count`, `count + 1`, … digits. Seventeen digits always
suffice, so `tries` of them are only a bound. -/
def searchGrids (m : Nat) (q : Int) (tie : TieRule) (lead : Int) : Nat → Nat → Decimal
  | 0, _ => ⟨0, 0⟩
  | tries + 1, count =>
    let exponent := lead - ((count : Int) - 1)
    match (scaled m q exponent).nearest? (m % 2 = 0) tie with
    | some digits => Decimal.trimZeros 20 ⟨digits, exponent⟩
    | none => searchGrids m q tie lead tries (count + 1)

/-- **The shortest decimal** that reads back as the positive finite double `x`. -/
def shortest (tie : TieRule) (x : Float) : Decimal :=
  let (m, q) := binary x
  if m = 0 then ⟨0, 0⟩ else searchGrids m q tie (leadingExponent m q) 18 1

end Telemetry.Double
