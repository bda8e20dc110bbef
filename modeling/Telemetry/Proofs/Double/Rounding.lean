import Telemetry.Proofs.Double.Comparison
import Telemetry.Proofs.Double.Finite

/-!
# Rounding to the nearest double

An operation on doubles takes the exact result, cuts its mantissa to 53 bits, and rounds by two
bits that tell what has been cut off. This comes to a function of the exact result: `rounded x` is
the level of the double next to `x`, and of two doubles as near, that with the even mantissa.

| fact | |
|---|---|
| what is rounded is canonical, and has the level `rounded x` | `roundWithAccuracy_spec` |
| a larger number is not rounded to a smaller double | `rounded_mono` |
| twice a number is rounded to twice the double | `rounded_two_mul` |

The numbers are rational and positive here. They are cut at the place `place x`: the place of the
last of 53 bits, but not below the last place of the smallest doubles.
-/

namespace Telemetry.Double

open Float.Model (Format UnpackedFloat totalExponent)
open Float.Model.UnpackedFloat

/-! ### The nearest integer -/

/-- The nearest integer, and of two as near, the even one. -/
def nearest (x : ℚ) : ℤ :=
  if x < ⌊x⌋ + 1 / 2 then ⌊x⌋
  else if x = ⌊x⌋ + 1 / 2 then ⌊x⌋ + ⌊x⌋ % 2
  else ⌊x⌋ + 1

theorem nearest_intCast (n : ℤ) : nearest n = n := by
  rw [nearest, Int.floor_intCast, if_pos (by linarith)]

theorem floor_le_nearest (x : ℚ) : ⌊x⌋ ≤ nearest x := by
  rw [nearest]
  split
  · exact le_refl _
  · split <;> omega

theorem nearest_le_floor_add_one (x : ℚ) : nearest x ≤ ⌊x⌋ + 1 := by
  rw [nearest]
  split
  · omega
  · split <;> omega

theorem nearest_mono : Monotone nearest := by
  intro x y hxy
  rcases (Int.floor_le_floor hxy).lt_or_eq with hlt | hfloor
  · have hle := nearest_le_floor_add_one x
    have hge := floor_le_nearest y
    omega
  -- between the same two integers, it matters on which side of the middle they are
  rw [nearest, hfloor]
  split
  · exact hfloor ▸ hfloor.symm ▸ floor_le_nearest y
  next hx =>
    have hy : ¬ y < ⌊y⌋ + 1 / 2 := fun hy => hx (hxy.trans_lt hy)
    rw [nearest, if_neg hy]
    split
    · split
      · exact le_refl _
      · omega
    next hne =>
      have hgt : ⌊y⌋ + 1 / 2 < x := lt_of_le_of_ne (not_lt.1 hx) (Ne.symm hne)
      rw [if_neg (hgt.trans_le hxy).ne']

theorem nearest_le {x : ℚ} {n : ℤ} (h : x ≤ n) : nearest x ≤ n :=
  (nearest_mono h).trans_eq (nearest_intCast n)

theorem le_nearest {x : ℚ} {n : ℤ} (h : n ≤ x) : n ≤ nearest x :=
  (nearest_intCast n).symm.trans_le (nearest_mono h)

/-! ### What is cut off -/

/-- **The two bits of an extended mantissa** tell what the mantissa leaves out of a number: whether
that is a half or more, and whether it is neither nothing nor exactly a half. -/
structure Tells (m : ExtendedMantissa) (x : ℚ) : Prop where
  le : m.mantissa ≤ x
  lt : x < m.mantissa + 1
  roundBit : m.roundBit = true ↔ m.mantissa + 1 / 2 ≤ x
  stickyBit : m.stickyBit = true ↔ x ≠ m.mantissa ∧ x ≠ m.mantissa + 1 / 2

variable {m : ExtendedMantissa} {x y : ℚ}

theorem Tells.floor (h : Tells m x) : ⌊x⌋ = m.mantissa :=
  Int.floor_eq_iff.2 ⟨by exact_mod_cast h.le, by exact_mod_cast h.lt⟩

/-- So the bits are enough to round by. -/
theorem Tells.nearest (h : Tells m x) : (m.roundedMantissa : ℤ) = nearest x := by
  have hfloor := h.floor
  obtain ⟨mantissa, roundBit, stickyBit⟩ := m
  obtain ⟨-, -, hround, hsticky⟩ := h
  simp only at hfloor hround hsticky
  rw [Double.nearest, hfloor, Int.cast_natCast]
  cases roundBit with
  | false =>
    rw [if_pos (not_le.1 fun hle => Bool.false_ne_true (hround.2 hle))]
    cases stickyBit <;> rfl
  | true =>
    have hge := hround.1 rfl
    rw [if_neg (not_lt.2 hge)]
    cases stickyBit with
    | true =>
      rw [if_neg (hsticky.1 rfl).2]
      rfl
    | false =>
      have hhalf : x = mantissa + 1 / 2 := by
        by_contra hne
        exact Bool.false_ne_true (hsticky.2 ⟨fun heq => by linarith, hne⟩)
      rw [if_pos hhalf]
      rfl

/-- Whether anything is left out at all. -/
theorem Tells.or_iff (h : Tells m x) : (m.roundBit || m.stickyBit) = true ↔ x ≠ m.mantissa := by
  rw [Bool.or_eq_true, h.roundBit, h.stickyBit]
  constructor
  · rintro (hle | hne) heq
    · linarith
    · exact hne.1 heq
  · intro hne
    by_cases hhalf : x = m.mantissa + 1 / 2
    · exact .inl hhalf.ge
    · exact .inr ⟨hne, hhalf⟩

theorem tells_exact (n : ℕ) : Tells (.ofMantissaAndAccuracy n .exact) n := by
  have hle : ¬ (n : ℚ) + 1 / 2 ≤ n := by linarith
  have hlt : (n : ℚ) < n + 1 := by linarith
  exact ⟨le_refl _, hlt, iff_of_false Bool.false_ne_true hle,
    iff_of_false Bool.false_ne_true fun h => h.1 rfl⟩

/-- What is cut off next comes before all that has been cut off already. -/
theorem Tells.shiftRightOne (h : Tells m x) : Tells m.shiftRightOne (x / 2) := by
  have hrest := h.or_iff
  have hle := h.le
  have hlt := h.lt
  have hdiv : (m.mantissa : ℚ) = 2 * (m.mantissa / 2 : ℕ) + (m.mantissa % 2 : ℕ) := by
    exact_mod_cast (Nat.div_add_mod m.mantissa 2).symm
  have hbit : m.shiftRightOne.roundBit = (m.mantissa % 2 != 0) := rfl
  have hor : m.shiftRightOne.stickyBit = (m.roundBit || m.stickyBit) := rfl
  have hmantissa : m.shiftRightOne.mantissa = m.mantissa / 2 := rfl
  rcases Nat.mod_two_eq_zero_or_one m.mantissa with hmod | hmod <;> rw [hmod] at hdiv hbit <;>
    push_cast at hdiv
  · refine ⟨?_, ?_, ?_, ?_⟩ <;> rw [hmantissa]
    · linarith
    · linarith
    · rw [hbit]
      exact iff_of_false Bool.false_ne_true fun hcon => by linarith
    · rw [hor, hrest]
      exact ⟨fun hne => ⟨fun heq => hne (by linarith), fun heq => by linarith⟩,
        fun hne heq => hne.1 (by linarith)⟩
  · refine ⟨?_, ?_, ?_, ?_⟩ <;> rw [hmantissa]
    · linarith
    · linarith
    · rw [hbit]
      exact iff_of_true rfl (by linarith)
    · rw [hor, hrest]
      exact ⟨fun hne => ⟨fun heq => by linarith, fun heq => hne (by linarith)⟩,
        fun hne heq => hne.2 (by linarith)⟩

theorem Tells.shiftRight (h : Tells m x) (k : ℕ) : Tells (m >>> k) (x / 2 ^ k) := by
  induction k with
  | zero => rwa [pow_zero, div_one]
  | succ k ih =>
    rw [pow_succ, ← div_div]
    exact ih.shiftRightOne

/-- **Division with a remainder** tells the quotient. -/
theorem tells_accuracyOfFraction (n : ℕ) {num den : ℕ} (h : num < den) :
    Tells (.ofMantissaAndAccuracy n (accuracyOfFraction num den)) (n + num / den) := by
  have hden : (0 : ℚ) < den := by exact_mod_cast Nat.zero_lt_of_lt h
  have hlt : (num : ℚ) / den < 1 := (div_lt_one hden).2 (by exact_mod_cast h)
  have hnonneg : (0 : ℚ) ≤ num / den := by positivity
  rw [accuracyOfFraction]
  split
  next hzero =>
    rw [hzero, Nat.cast_zero, zero_div, add_zero]
    exact tells_exact n
  next hpos =>
    have hne : (n : ℚ) + num / den ≠ n := fun heq => by
      have hzero : (num : ℚ) / den = 0 := by linarith
      rcases div_eq_zero_iff.1 hzero with hnum | hden'
      · exact hpos (by exact_mod_cast hnum)
      · exact hden.ne' hden'
    have hlow : (n : ℚ) ≤ n + num / den := by linarith
    have hhigh : (n : ℚ) + num / den < n + 1 := by linarith
    have hhalf : (n : ℚ) + 1 / 2 ≤ n + num / den ↔ den ≤ 2 * num := by
      rw [add_le_add_iff_left, div_le_div_iff₀ two_pos hden]
      norm_cast
      rw [Nat.one_mul, Nat.mul_comm]
    have hmiddle : (n : ℚ) + num / den = n + 1 / 2 ↔ 2 * num = den := by
      rw [add_right_inj, div_eq_div_iff hden.ne' two_ne_zero]
      norm_cast
      rw [Nat.one_mul, Nat.mul_comm]
    rcases lt_trichotomy (2 * num) den with hside | hside | hside
    · rw [compare_lt_iff_lt.2 hside]
      refine ⟨hlow, hhigh, iff_of_false Bool.false_ne_true ?_, iff_of_true rfl ?_⟩
      · exact fun hcon => absurd (hhalf.1 hcon) (by omega)
      · exact ⟨hne, fun hcon => absurd (hmiddle.1 hcon) (by omega)⟩
    · rw [compare_eq_iff_eq.2 hside]
      refine ⟨hlow, hhigh, iff_of_true rfl ?_, iff_of_false Bool.false_ne_true ?_⟩
      · exact hhalf.2 hside.ge
      · exact fun hcon => hcon.2 (hmiddle.2 hside)
    · rw [compare_gt_iff_gt.2 hside]
      refine ⟨hlow, hhigh, iff_of_true rfl ?_, iff_of_true rfl ?_⟩
      · exact hhalf.2 hside.le
      · exact ⟨hne, fun hcon => absurd (hmiddle.1 hcon) (by omega)⟩

/-! ### Rounding -/

/-- The place that a number is cut at: that of the last of 53 bits, but not below the last place of
the smallest doubles. -/
def place (x : ℚ) : ℤ := max (Int.log 2 x - 52) (-1074)

/-- **The level of the double next to a positive number.** -/
def rounded (x : ℚ) : ℤ := (place x + 1074) * 2 ^ 52 + nearest (x / 2 ^ place x)

theorem le_place (x : ℚ) : -1074 ≤ place x := le_max_right _ _

theorem place_mono (hx : 0 < x) (hxy : x ≤ y) : place x ≤ place y :=
  max_le_max (Int.sub_le_sub_right (Int.log_mono_right hx hxy) 52) (le_refl _)

/-- A number cut at its place has at most 53 bits left. -/
theorem div_place_lt (x : ℚ) : x / 2 ^ place x < 2 ^ 53 := by
  have hlog : Int.log 2 x + 1 ≤ place x + 53 := by
    have := le_max_left (Int.log 2 x - 52) (-1074)
    rw [place]
    omega
  rw [div_lt_iff₀ (by positivity), ← zpow_natCast, ← zpow_add₀ two_ne_zero, add_comm]
  calc x < (2 : ℕ) ^ (Int.log 2 x + 1) := Int.lt_zpow_succ_log_self one_lt_two x
    _ ≤ 2 ^ (place x + 53) := by
      rw [Nat.cast_ofNat]
      exact zpow_le_zpow_right₀ one_le_two hlog

/-- It has 53 bits left, unless it is cut at the last place of all. -/
theorem le_div_place (hx : 0 < x) (hplace : place x ≠ -1074) : 2 ^ 52 ≤ x / 2 ^ place x := by
  have hlog : place x + 52 = Int.log 2 x := by
    rw [place] at hplace ⊢
    omega
  rw [le_div_iff₀ (by positivity), ← zpow_natCast, ← zpow_add₀ two_ne_zero, add_comm]
  calc (2 : ℚ) ^ (place x + 52) = (2 : ℕ) ^ Int.log 2 x := by rw [hlog, Nat.cast_ofNat]
    _ ≤ x := Int.zpow_log_le_self one_lt_two hx

theorem nearest_div_place_le (x : ℚ) : nearest (x / 2 ^ place x) ≤ 2 ^ 53 :=
  nearest_le (n := 2 ^ 53) (by exact_mod_cast (div_place_lt x).le)

theorem le_nearest_div_place (hx : 0 < x) (hplace : place x ≠ -1074) :
    2 ^ 52 ≤ nearest (x / 2 ^ place x) :=
  le_nearest (n := 2 ^ 52) (by exact_mod_cast le_div_place hx hplace)

/-- **A larger number is not rounded to a smaller double.** -/
theorem rounded_mono (hx : 0 < x) (hxy : x ≤ y) : rounded x ≤ rounded y := by
  rw [rounded, rounded]
  rcases (place_mono hx hxy).lt_or_eq with hlt | heq
  -- a full mantissa of the lower place is no more than the least one of the next place
  · have hle := nearest_div_place_le x
    have hge := le_nearest_div_place (hx.trans_le hxy) ((le_place x).trans_lt hlt).ne'
    omega
  · rw [heq]
    have hnearest : nearest (x / 2 ^ place y) ≤ nearest (y / 2 ^ place y) :=
      nearest_mono (div_le_div_of_nonneg_right hxy (by positivity))
    omega

theorem log_lt_of_lt {k : ℤ} (hx : 0 < x) (h : x < 2 ^ k) : Int.log 2 x < k :=
  (Int.lt_zpow_iff_log_lt one_lt_two hx).1 (by exact_mod_cast h)

theorem log_eq {k : ℤ} (hle : 2 ^ k ≤ x) (hlt : x < 2 ^ (k + 1)) : Int.log 2 x = k := by
  have hx : 0 < x := lt_of_lt_of_le (by positivity) hle
  have hge : k ≤ Int.log 2 x := (Int.zpow_le_iff_le_log one_lt_two hx).1 (by exact_mod_cast hle)
  have hlog := log_lt_of_lt hx hlt
  omega

theorem lt_two_zpow_log (x : ℚ) : x < 2 ^ (Int.log 2 x + 1) := by
  exact_mod_cast Int.lt_zpow_succ_log_self one_lt_two x

theorem log_two_mul (hx : 0 < x) : Int.log 2 (2 * x) = Int.log 2 x + 1 := by
  have hle : 2 ^ Int.log 2 x ≤ x := by exact_mod_cast Int.zpow_log_le_self one_lt_two hx
  refine log_eq ?_ ?_
  · rw [zpow_add_one₀ two_ne_zero, mul_comm]
    exact mul_le_mul_of_nonneg_left hle two_pos.le
  · rw [zpow_add_one₀ two_ne_zero, mul_comm]
    exact mul_lt_mul_of_pos_right (lt_two_zpow_log x) two_pos

theorem log_mul_le (hx : 0 < x) (hy : 0 < y) :
    Int.log 2 (x * y) ≤ Int.log 2 x + Int.log 2 y + 1 := by
  have hlt : x * y < 2 ^ (Int.log 2 x + 1 + (Int.log 2 y + 1)) := by
    rw [zpow_add₀ two_ne_zero]
    exact mul_lt_mul'' (lt_two_zpow_log x) (lt_two_zpow_log y) hx.le hy.le
  have hlog := log_lt_of_lt (mul_pos hx hy) hlt
  omega

theorem log_div_le (hx : 0 < x) (hy : 0 < y) : Int.log 2 (x / y) ≤ Int.log 2 x - Int.log 2 y := by
  have hlow : (2 : ℚ) ^ Int.log 2 y ≤ y := by exact_mod_cast Int.zpow_log_le_self one_lt_two hy
  have hlt : x / y < 2 ^ (Int.log 2 x + 1 - Int.log 2 y) := by
    rw [div_lt_iff₀ hy]
    calc x < 2 ^ (Int.log 2 x + 1) := lt_two_zpow_log x
      _ = 2 ^ (Int.log 2 x + 1 - Int.log 2 y) * 2 ^ Int.log 2 y := by
        rw [← zpow_add₀ two_ne_zero, Int.sub_add_cancel]
      _ ≤ 2 ^ (Int.log 2 x + 1 - Int.log 2 y) * y := by gcongr
  have hlog := log_lt_of_lt (div_pos hx hy) hlt
  omega

/-- **Twice a number** is rounded to twice the double, unless it is very small. -/
theorem rounded_two_mul (hx : 0 < x) (hlog : -1022 ≤ Int.log 2 x) :
    rounded (2 * x) = rounded x + 2 ^ 52 := by
  have hplace : place (2 * x) = place x + 1 := by
    rw [place, place, log_two_mul hx]
    omega
  rw [rounded, rounded, hplace, zpow_add_one₀ two_ne_zero, mul_comm 2 x,
    mul_div_mul_right _ _ two_ne_zero]
  ring

/-- The logarithm of a number by that of its mantissa. -/
theorem log_eq_of_mantissa {n : ℕ} (hn : n ≠ 0) {e : ℤ} (hle : n ≤ x / 2 ^ e)
    (hlt : x / 2 ^ e < n + 1) : Int.log 2 x = n.log2 + e := by
  have hpos : (0 : ℚ) < 2 ^ e := by positivity
  have hlow : ((2 ^ n.log2 : ℕ) : ℚ) ≤ n := by exact_mod_cast Nat.log2_self_le hn
  have hhigh : (n : ℚ) + 1 ≤ ((2 ^ (n.log2 + 1) : ℕ) : ℚ) := by exact_mod_cast Nat.lt_log2_self
  refine log_eq ?_ ?_
  · rw [zpow_add₀ two_ne_zero, zpow_natCast, ← le_div_iff₀ hpos]
    exact_mod_cast hlow.trans hle
  · rw [add_right_comm, zpow_add₀ two_ne_zero, ← Nat.cast_add_one, zpow_natCast, ← div_lt_iff₀ hpos]
    exact_mod_cast hlt.trans_le hhigh

theorem log_eq_of_exact {n : ℕ} (hn : n ≠ 0) {e : ℤ} (h : x / 2 ^ e = n) :
    Int.log 2 x = n.log2 + e :=
  log_eq_of_mantissa hn h.ge (h.trans_lt (lt_add_one _))

/-- A mantissa of at most 53 bits stays as it is. -/
theorem shiftToTargetExponent_of_lt {n : ℕ} (hn : n < 2 ^ 53) {e : ℤ} (he : -1074 ≤ e) :
    shiftToTargetExponent Format.binary64 n e .exact = (⟨n, false, false⟩, e) := by
  have hlog : n.log2 ≤ 52 := log2_le_of_lt hn
  have htarget : Format.binary64.targetExponent (totalExponent n e) =
      max (totalExponent n e - 53) (-1074) := rfl
  have hshift : (Format.binary64.targetExponent (totalExponent n e) - e).toNat = 0 := by
    rw [htarget, totalExponent]
    omega
  rw [shiftToTargetExponent, shiftToExponent, hshift]
  exact Prod.ext rfl (Int.add_zero e)

/-- A mantissa of 53 bits that has been rounded up to a power of two loses its last bit. -/
theorem shiftToTargetExponent_two_pow {e : ℤ} (he : -1074 ≤ e) :
    shiftToTargetExponent Format.binary64 (2 ^ 53) e .exact =
      (⟨2 ^ 52, false, false⟩, e + 1) := by
  have hlog : (2 ^ 53 : ℕ).log2 = 53 := Nat.log2_two_pow
  have htarget : Format.binary64.targetExponent (totalExponent (2 ^ 53) e) =
      max (totalExponent (2 ^ 53) e - 53) (-1074) := rfl
  have hshift : (Format.binary64.targetExponent (totalExponent (2 ^ 53) e) - e).toNat = 1 := by
    rw [htarget, totalExponent, hlog]
    omega
  rw [shiftToTargetExponent, shiftToExponent, hshift]
  rfl

/-- **What is rounded is canonical**, and has the level of the double next to the exact number. -/
theorem roundWithAccuracy_spec (sign : Sign) {n : ℕ} (hn : n ≠ 0) {e : ℤ} {accuracy : Accuracy}
    (h : Tells (.ofMantissaAndAccuracy n accuracy) (x / 2 ^ e)) (he : e ≤ place x) :
    IsCanonical (roundWithAccuracy Format.binary64 sign n e accuracy) ∧
      levelOf (roundWithAccuracy Format.binary64 sign n e accuracy) = sign.apply (rounded x) := by
  have hmantissa := mantissa_ofMantissaAndAccuracy n accuracy
  have hle := h.le
  have hlt := h.lt
  rw [hmantissa] at hle hlt
  have hx : 0 < x := by
    have hpos : (0 : ℚ) < n := by exact_mod_cast Nat.pos_of_ne_zero hn
    exact (div_pos_iff_of_pos_right (by positivity)).1 (hpos.trans_le hle)
  have htarget : Format.binary64.targetExponent (totalExponent n e) = place x := by
    rw [place, log_eq_of_mantissa hn hle hlt]
    change max ((n.log2 : ℤ) + 1 + e - 53) (-1074) = _
    omega
  -- the first shift cuts the number at its place
  have hfirst : (shiftToTargetExponent Format.binary64 n e accuracy).2 = place x ∧
      ((shiftToTargetExponent Format.binary64 n e accuracy).1.roundedMantissa : ℤ) =
        nearest (x / 2 ^ place x) := by
    obtain ⟨k, hk⟩ := Int.eq_ofNat_of_zero_le (Int.sub_nonneg_of_le he)
    have hplace : place x = e + k := by omega
    rw [shiftToTargetExponent, shiftToExponent, htarget, hk]
    refine ⟨hplace.symm, (h.shiftRight k).nearest.trans ?_⟩
    rw [hplace, zpow_add₀ two_ne_zero, zpow_natCast, div_div]
  have hplace := le_place x
  have hcut := nearest_div_place_le x
  have hfull : place x ≠ -1074 → 2 ^ 52 ≤ nearest (x / 2 ^ place x) := le_nearest_div_place hx
  rw [roundWithAccuracy, rounded]
  generalize shiftToTargetExponent Format.binary64 n e accuracy = first at hfirst ⊢
  obtain ⟨first, e'⟩ := first
  obtain ⟨rfl, hnearest⟩ := hfirst
  simp only
  simp only at hnearest hplace hfull hcut ⊢
  rw [← hnearest] at hcut hfull ⊢
  generalize first.roundedMantissa = cut at *
  generalize place x = e' at *
  rcases Nat.lt_or_ge cut (2 ^ 53) with hsmall | hlarge
  · rw [shiftToTargetExponent_of_lt hsmall hplace]
    simp only
    split
    next hzero =>
      -- only the smallest numbers of all are rounded to zero
      have hlast : e' = -1074 := by omega
      refine ⟨trivial, ?_⟩
      rw [hzero, hlast]
      cases sign <;> rfl
    next hne => exact ⟨⟨hsmall, hplace, fun hlt => by omega⟩, rfl⟩
  · obtain rfl : cut = 2 ^ 53 := by omega
    rw [shiftToTargetExponent_two_pow hplace]
    have hbits : 2 ^ 52 < 2 ^ 53 := by decide
    refine ⟨⟨hbits, by omega, fun hlt => absurd hlt (Nat.lt_irrefl _)⟩, congrArg sign.apply ?_⟩
    push_cast
    ring

end Telemetry.Double
