import Telemetry.Random.Source
import Telemetry.Proofs.Double.Finite

/-!
# Draws keep to their bounds

A number drawn below `n` is below `n`, also when the second draw adds a carry: the low part of
the product tells that a carry may be due, and where the high part is the largest there is, the
low part is too small for that (`scaledDraw_lt`). An impossible event does not happen
(`chance_zero`).
-/

namespace Telemetry.Random.Source

/-- **A scaled draw** is below its bound. -/
theorem scaledDraw_lt {size n x : Nat} (hn : 0 < n) (hx : x < size) (second : Unit → Nat × Source)
    (s : Source) : (scaledDraw size n x second s).1 < n := by
  have hsize : 0 < size := Nat.zero_lt_of_lt hx
  have hhigh : x * n / size < n := by
    rw [Nat.div_lt_iff_lt_mul hsize, Nat.mul_comm n]
    exact Nat.mul_lt_mul_of_pos_right hx hn
  unfold scaledDraw
  simp only
  split
  next hlow =>
    -- the largest high part leaves no more than `size - n` to the low part
    have hnot : x * n / size + 1 ≠ n := fun hlast => by
      have hsplit := Nat.div_add_mod (x * n) size
      have hle : x * n + n ≤ size * n := by
        rw [← Nat.succ_mul]
        exact Nat.mul_le_mul_right n hx
      have hproduct : size * n = size * (x * n / size) + size := by
        rw [← Nat.mul_succ, Nat.succ_eq_add_one, hlast]
      omega
    split
    · exact Nat.lt_of_le_of_ne hhigh hnot
    · exact hhigh
  next => exact hhigh

theorem below32_lt (s : Source) {n : Nat} (hn : 0 < n) : (s.below32 n).1 < n :=
  scaledDraw_lt hn s.next32.1.toNat_lt _ _

theorem below64_lt (s : Source) {n : Nat} (hn : 0 < n) : (s.below64 n).1 < n :=
  scaledDraw_lt hn s.next64.1.toNat_lt _ _

/-- What has probability zero does not happen. -/
theorem chance_zero (s : Source) {p : Float} (hp : p == 0.0) : (s.chance p).1 = false := by
  have hone : (p == 1.0) = false := by
    rcases Double.eq_or_eq_of_beq_zero hp with rfl | rfl <;> decide +kernel
  have hzero : (p * 18446744073709551616.0).toUInt64 = 0 := by
    rcases Double.eq_or_eq_of_beq_zero hp with rfl | rfl <;> decide +kernel
  rw [chance, hone, hzero]
  change decide (s.next64.1 < 0) = false
  exact decide_eq_false fun h => UInt64.not_lt_zero h

end Telemetry.Random.Source
