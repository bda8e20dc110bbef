/-!
# Two orders on doubles, read off their bits

A double is a sign bit above a magnitude, and magnitudes of equal sign grow with
the number they stand for. So both orders that the sampling layer needs are
integer orders on a reading of the 64 bits:

| reading | order | the two zeros |
|---|---|---|
| `Double.rank` | the total order of all doubles | `-0.0` stands below `0.0` |
| `Double.level` | the order of the numbers themselves | equal |

The total order also places the infinities and the NaNs. The numeric order is
only meant for finite doubles, which is what `Double.isNumber` tells.
-/

namespace Telemetry.Double

/-- The value of the sign bit in the bits of a double. -/
def signBit : Nat := 0x8000000000000000

/-- The bits of a double below its sign bit. -/
def magnitude (x : Float) : Nat := x.toBits.toNat % signBit

/-- The sign bit of a double. -/
def isNegative (x : Float) : Bool := signBit ≤ x.toBits.toNat

/-- The place of a double in the total order: a negative double of magnitude `m`
has rank `-m - 1`, so that minus zero stands right below zero. -/
def rank (x : Float) : Int :=
  if isNegative x then -(magnitude x : Int) - 1 else magnitude x

/-- The place of a finite double in the order of numbers: a negative double of
magnitude `m` has level `-m`, so that both zeros share one level. -/
def level (x : Float) : Int :=
  if isNegative x then -(magnitude x : Int) else magnitude x

/-- Neither infinite nor NaN: the exponent bits are not all set. -/
def isNumber (x : Float) : Bool := magnitude x < 0x7FF0000000000000

/-- The nearest number between zero and one. -/
def clampToUnit (x : Float) : Float := if x < 0.0 then 0.0 else if 1.0 < x then 1.0 else x

/-- The smaller the rank, the smaller the level, except between the two zeros. -/
theorem level_le_of_rank_le {x y : Float} (h : rank x ≤ rank y) : level x ≤ level y := by
  grind [rank, level]

/-- A number strictly above another stands strictly above it in the total order. -/
theorem rank_lt_of_level_lt {x y : Float} (h : level x < level y) : rank x < rank y := by
  have := @level_le_of_rank_le y x
  omega

end Telemetry.Double
