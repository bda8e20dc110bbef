import Telemetry.Proofs.Double.Decimal

/-!
# The fewest digits read back

The digits that a double is written with are read as the same double (`ofDecimal_shortest`). That
takes three facts:

* what is in the *reading interval* of a double is rounded to it (`ReadsAs.rounded`);
* a grid of eighteen digits has a point in that interval, so the search ends with one
  (`searchGrids_spec`);
* zeros at the end can be dropped (`value_trimZeros`).

That the digits are as few as possible is not needed to read them back.
-/

namespace Telemetry.Double

open Float.Model (Format UnpackedFloat totalExponent)
open Float.Model.UnpackedFloat

variable {x : Float} {m : ℕ} {e k : ℤ} {y : ℚ}

/-! ### The reading interval -/

/-- The nearest integer of a number that is no further from it than a half, if the integer is
even. -/
theorem nearest_eq {n : ℤ} (hlow : n - 1 / 2 ≤ y) (hhigh : y ≤ n + 1 / 2)
    (htie : n % 2 = 0 ∨ n - 1 / 2 < y ∧ y < n + 1 / 2) : nearest y = n := by
  rcases le_or_gt (n : ℚ) y with hle | hlt
  · have hfloor : ⌊y⌋ = n := Int.floor_eq_iff.2 ⟨hle, by linarith⟩
    rw [nearest, hfloor]
    split
    · rfl
    next hhalf =>
      rcases htie with heven | ⟨-, hstrict⟩
      · rw [if_pos (le_antisymm hhigh (not_lt.1 hhalf)), heven, add_zero]
      · exact absurd hstrict hhalf
  · have hfloor : ⌊y⌋ = n - 1 := Int.floor_eq_iff.2 ⟨by push_cast; linarith, by push_cast; linarith⟩
    rw [nearest, hfloor, if_neg (by push_cast; linarith)]
    split
    next hhalf =>
      rcases htie with heven | ⟨hstrict, -⟩
      · omega
      · push_cast at hhalf
        linarith
    · omega

/-- How far the reading interval reaches down: half as far below a power of two, where the doubles
are twice as dense. -/
def lowerGap (m : ℕ) (e : ℤ) : ℕ := if m = leadingBit ∧ e ≠ -1074 then 1 else 2

theorem lowerGap_cases (m : ℕ) (e : ℤ) :
    lowerGap m e = 2 ∨ lowerGap m e = 1 ∧ m = 2 ^ 52 ∧ e ≠ -1074 := by
  rw [lowerGap]
  split
  next h => exact .inr ⟨rfl, h⟩
  next => exact .inl rfl

/-- **The reading interval** of `m · 2 ^ e`, with its ends exactly if the mantissa is even. -/
structure ReadsAs (m : ℕ) (e : ℤ) (y : ℚ) : Prop where
  low : m - lowerGap m e / 4 ≤ y / 2 ^ e
  high : y / 2 ^ e ≤ m + 1 / 2
  ends : m % 2 = 0 ∨ m - lowerGap m e / 4 < y / 2 ^ e ∧ y / 2 ^ e < m + 1 / 2

theorem ReadsAs.pos (h : ReadsAs m e y) (hm : 0 < m) : 0 < y := by
  have hlow := h.low
  have hleast : (1 : ℚ) ≤ m := by exact_mod_cast hm
  have hcut : 0 < y / 2 ^ e := by
    rcases lowerGap_cases m e with hgap | ⟨hgap, -⟩ <;> rw [hgap] at hlow <;> push_cast at hlow <;>
      linarith
  exact (div_pos_iff_of_pos_right (by positivity)).1 hcut

theorem ReadsAs.log_lt (h : ReadsAs m e y) (hu : Unpacks x m e) : Int.log 2 y < 53 + e := by
  refine log_lt_of_lt (h.pos hu.pos) ?_
  have hmost : (m : ℚ) + 1 ≤ 2 ^ 53 := by exact_mod_cast hu.lt
  rw [zpow_add₀ two_ne_zero, ← div_lt_iff₀ (by positivity)]
  calc y / 2 ^ e ≤ m + 1 / 2 := h.high
    _ < 2 ^ 53 := by linarith
    _ = 2 ^ (53 : ℤ) := rfl

/-- Cut at the place of the double itself, a number of the interval is rounded to the mantissa. -/
theorem ReadsAs.rounded_of_place (h : ReadsAs m e y) (hplace : place y = e) :
    Double.rounded y = (e + 1074) * 2 ^ 52 + m := by
  obtain ⟨hlow, hhigh, hends⟩ := h
  have hgap : (m : ℚ) - 1 / 2 ≤ m - lowerGap m e / 4 := by
    rcases lowerGap_cases m e with hgap | ⟨hgap, -⟩ <;> rw [hgap] <;> push_cast <;> linarith
  rw [Double.rounded, hplace, nearest_eq (n := m) ?_ ?_ ?_]
  · exact_mod_cast hgap.trans hlow
  · exact_mod_cast hhigh
  · rcases hends with heven | ⟨hstrict, hstrict'⟩
    · exact .inl (by omega)
    · exact .inr ⟨by exact_mod_cast hgap.trans_lt hstrict, by exact_mod_cast hstrict'⟩

/-- Only a power of two has numbers in its interval that have fewer bits. -/
theorem ReadsAs.eq_leadingBit (h : ReadsAs m e y) (hu : Unpacks x m e) (hlast : e ≠ -1074)
    (hbelow : y / 2 ^ e < 2 ^ 52) : m = 2 ^ 52 := by
  have hlow := h.low
  have hnormal : 2 ^ 52 ≤ m := by
    by_contra hsub
    exact hlast (hu.full (Nat.not_le.1 hsub))
  have hm : (m : ℚ) < 2 ^ 52 + 1 := by
    rcases lowerGap_cases m e with hgap | ⟨-, hm, -⟩
    · rw [hgap] at hlow
      push_cast at hlow
      linarith
    · rw [hm]
      norm_num
  have : m < 2 ^ 52 + 1 := by exact_mod_cast hm
  omega

/-- Right below a power of two, a number is cut one place further down, and rounded up to it. -/
theorem ReadsAs.rounded_below (h : ReadsAs m e y) (hu : Unpacks x m e) (hlast : e ≠ -1074)
    (hbelow : y / 2 ^ e < 2 ^ 52) : Double.rounded y = (e + 1074) * 2 ^ 52 + m := by
  have hy := h.pos hu.pos
  have hle := hu.le
  have hlow := h.low
  have hpower := h.eq_leadingBit hu hlast hbelow
  have hgap : lowerGap m e = 1 := if_pos ⟨hpower, hlast⟩
  rw [hgap, hpower] at hlow
  push_cast at hlow
  have hhalf : y / 2 ^ (e - 1) = 2 * (y / 2 ^ e) := by
    rw [zpow_sub_one₀ two_ne_zero]
    field_simp
  have hlog : Int.log 2 y = 51 + e := by
    refine log_eq ?_ ?_
    · rw [zpow_add₀ two_ne_zero, ← le_div_iff₀ (by positivity)]
      calc (2 ^ (51 : ℤ) : ℚ) = 2 ^ 51 := rfl
        _ ≤ y / 2 ^ e := by linarith
    · rw [add_right_comm, zpow_add₀ two_ne_zero, ← div_lt_iff₀ (by positivity)]
      exact hbelow
  have hplace : place y = e - 1 := by
    rw [place]
    omega
  have hnearest : nearest (y / 2 ^ (e - 1)) = 2 ^ 53 := by
    rw [hhalf]
    refine nearest_eq ?_ ?_ (.inl (by decide)) <;> push_cast <;> linarith
  rw [Double.rounded, hplace, hnearest, hpower]
  push_cast
  ring

/-- **What is in the reading interval** is rounded to the double. -/
theorem ReadsAs.rounded (h : ReadsAs m e y) (hu : Unpacks x m e) :
    Double.rounded y = level x := by
  have hy := h.pos hu.pos
  have hle := hu.le
  have hlog := h.log_lt hu
  rw [hu.level]
  rcases lt_or_ge (y / 2 ^ e) (2 ^ 52) with hbelow | habove
  · by_cases hlast : e = -1074
    · have hlog' : Int.log 2 y < 52 + e := by
        refine log_lt_of_lt hy ?_
        rw [zpow_add₀ two_ne_zero, ← div_lt_iff₀ (by positivity)]
        exact hbelow
      exact h.rounded_of_place (by rw [place]; omega)
    · exact h.rounded_below hu hlast hbelow
  · have hlog' : 52 + e ≤ Int.log 2 y := by
      rw [← Int.zpow_le_iff_le_log one_lt_two hy, Nat.cast_ofNat, zpow_add₀ two_ne_zero,
        ← le_div_iff₀ (by positivity)]
      exact habove
    exact h.rounded_of_place (by rw [place]; omega)

/-! ### The grid -/

/-- A power whose exponent may be negative, as a quotient of two natural powers. -/
theorem pow_toNat_eq {b : ℕ} (hb : b ≠ 0) (n : ℤ) :
    (b : ℚ) ^ n.toNat = (b : ℚ) ^ n * (b : ℚ) ^ (-n).toNat := by
  have hb' : (b : ℚ) ≠ 0 := by exact_mod_cast hb
  rw [← zpow_natCast, ← zpow_natCast, ← zpow_add₀ hb']
  congr 1
  omega

/-- What a quarter of a step of the double counts, where a step of the grid counts as its unit. -/
def quarter (e k : ℤ) : ℕ := Nat.pow 2 (e - 2).toNat * Nat.pow 10 (-k).toNat

theorem scaled_eq (m : ℕ) (e k : ℤ) : scaled m e k =
    ⟨(4 * m - lowerGap m e) * quarter e k, 4 * m * quarter e k, (4 * m + 2) * quarter e k,
      Nat.pow 2 (2 - e).toNat * Nat.pow 10 k.toNat⟩ := rfl

theorem quarter_pos (e k : ℤ) : 0 < quarter e k :=
  Nat.mul_pos (Nat.pow_pos two_pos) (Nat.pow_pos (by decide))

theorem unit_pos (m : ℕ) (e k : ℤ) : 0 < (scaled m e k).unit :=
  Nat.mul_pos (Nat.pow_pos two_pos) (Nat.pow_pos (by decide))

/-- **A grid point** in quarters of a step of the double. -/
theorem cast_mul_unit (m : ℕ) (e k : ℤ) (d : ℕ) :
    ((d * (scaled m e k).unit : ℕ) : ℚ) = d * 10 ^ k / 2 ^ e * 4 * quarter e k := by
  have htwo := pow_toNat_eq two_ne_zero (e - 2)
  have hten := pow_toNat_eq (show 10 ≠ 0 by decide) k
  rw [neg_sub] at htwo
  push_cast at htwo hten
  rw [scaled_eq, quarter]
  simp only [Nat.pow_eq]
  push_cast
  rw [hten, htwo, zpow_sub₀ two_ne_zero]
  field_simp
  norm_num

theorem quarter_mul_le_iff (m : ℕ) (e k : ℤ) (n d : ℕ) :
    n * quarter e k ≤ d * (scaled m e k).unit ↔ (n / 4 : ℚ) ≤ d * 10 ^ k / 2 ^ e := by
  have hpos : (0 : ℚ) < quarter e k := by exact_mod_cast quarter_pos e k
  rw [← Nat.cast_le (α := ℚ), cast_mul_unit, Nat.cast_mul, mul_le_mul_iff_of_pos_right hpos,
    div_le_iff₀ four_pos]

theorem le_quarter_mul_iff (m : ℕ) (e k : ℤ) (n d : ℕ) :
    d * (scaled m e k).unit ≤ n * quarter e k ↔ (d * 10 ^ k / 2 ^ e : ℚ) ≤ n / 4 := by
  have hpos : (0 : ℚ) < quarter e k := by exact_mod_cast quarter_pos e k
  rw [← Nat.cast_le (α := ℚ), cast_mul_unit, Nat.cast_mul, mul_le_mul_iff_of_pos_right hpos,
    le_div_iff₀ four_pos]

/-- **A grid point that the search accepts** is in the reading interval. -/
theorem ReadsAs.of_holds (hm : 0 < m) {d : ℕ} (h : (scaled m e k).holds (m % 2 = 0) d) :
    ReadsAs m e (d * 10 ^ k) := by
  have hgap : lowerGap m e ≤ 4 * m := by
    rcases lowerGap_cases m e with hgap | ⟨hgap, -⟩ <;> omega
  have hlow : ((4 * m - lowerGap m e : ℕ) / 4 : ℚ) = m - lowerGap m e / 4 := by
    rw [Nat.cast_sub hgap]
    push_cast
    ring
  have hhigh : ((4 * m + 2 : ℕ) / 4 : ℚ) = m + 1 / 2 := by
    push_cast
    ring
  have hlow' := quarter_mul_le_iff m e k (4 * m - lowerGap m e) d
  have hhigh' := le_quarter_mul_iff m e k (4 * m + 2) d
  have hlow'' := le_quarter_mul_iff m e k (4 * m - lowerGap m e) d
  have hhigh'' := quarter_mul_le_iff m e k (4 * m + 2) d
  rw [hlow] at hlow' hlow''
  rw [hhigh] at hhigh' hhigh''
  rw [Scaled.holds] at h
  cases heven : decide (m % 2 = 0) with
  | true =>
    rw [heven, if_pos rfl, decide_eq_true_iff] at h
    exact ⟨hlow'.1 h.1, hhigh'.1 h.2, .inl (of_decide_eq_true heven)⟩
  | false =>
    rw [heven, if_neg Bool.false_ne_true, decide_eq_true_iff] at h
    have hstrict := not_le.1 (mt hlow''.2 (Nat.not_le.2 h.1))
    have hstrict' := not_le.1 (mt hhigh''.2 (Nat.not_le.2 h.2))
    exact ⟨hstrict.le, hstrict'.le, .inr ⟨hstrict, hstrict'⟩⟩

/-! ### The search -/

variable {s : Scaled} {even : Bool} {tie : TieRule}

/-- What the search takes of a grid is in the interval. -/
theorem Scaled.holds_of_nearest? {d : ℕ} (h : s.nearest? even tie = some d) :
    s.holds even d := by
  unfold Scaled.nearest? at h
  simp only at h
  split at h
  next => cases h
  next hbelow _ => cases h; exact hbelow
  next _ habove => cases h; exact habove
  next hbelow habove =>
    split at h
    · cases h; exact hbelow
    split at h
    · cases h; exact habove
    split at h
    · cases h; exact habove
    · cases h
      split
      · exact hbelow
      · exact habove

/-- One of two neighbours on a grid is in an interval that is wider than the grid. -/
theorem Scaled.holds_or_holds (even : Bool) {p : ℕ} (hlow : s.low < s.value)
    (hhigh : s.value < s.high) (hfine : s.unit < s.high - s.low) (hbelow : p * s.unit ≤ s.value)
    (habove : s.value < p * s.unit + s.unit) : s.holds even p ∨ s.holds even (p + 1) := by
  rw [Scaled.holds, Scaled.holds, Nat.succ_mul]
  cases even with
  | true =>
    rw [if_pos rfl, if_pos rfl, decide_eq_true_iff, decide_eq_true_iff]
    omega
  | false =>
    rw [if_neg Bool.false_ne_true, if_neg Bool.false_ne_true, decide_eq_true_iff,
      decide_eq_true_iff]
    omega

/-- **A grid finer than the interval** has a point in it. -/
theorem Scaled.nearest?_ne_none (hunit : 0 < s.unit) (hlow : s.low < s.value)
    (hhigh : s.value < s.high) (hfine : s.unit < s.high - s.low) :
    s.nearest? even tie ≠ none := by
  have hor := s.holds_or_holds even hlow hhigh hfine
    (Nat.div_mul_le_self s.value s.unit) (Nat.lt_div_mul_add hunit)
  intro hnone
  unfold Scaled.nearest? at hnone
  simp only at hnone
  split at hnone
  next hbelow habove =>
    rw [hbelow, habove] at hor
    exact hor.elim Bool.false_ne_true Bool.false_ne_true
  next => cases hnone
  next => cases hnone
  next =>
    split at hnone
    · cases hnone
    split at hnone
    · cases hnone
    split at hnone <;> cases hnone

/-! ### The leading digit -/

/-- **The exponent of the leading digit** is no more than that of the number. -/
theorem ten_zpow_leadingExponent_le (hm : 0 < m) (e : ℤ) :
    (10 : ℚ) ^ leadingExponent m e ≤ m * 2 ^ e := by
  rw [leadingExponent]
  split
  next hnonneg =>
    obtain ⟨n, rfl⟩ := Int.eq_ofNat_of_zero_le hnonneg
    have hne : m * Nat.pow 2 n ≠ 0 := Nat.mul_ne_zero (Nat.ne_of_gt hm) (Nat.two_pow_pos n).ne'
    refine (ten_zpow_digitCount_le hne).trans_eq ?_
    rw [Nat.pow_eq, zpow_natCast]
    push_cast
    rfl
  next hneg =>
    obtain ⟨n, hn⟩ := Int.exists_eq_neg_ofNat (le_of_not_ge hneg)
    subst hn
    have hne : m * Nat.pow 5 n ≠ 0 :=
      Nat.mul_ne_zero (Nat.ne_of_gt hm) (Nat.pow_pos (by decide)).ne'
    simp only [neg_neg, Int.toNat_natCast]
    rw [zpow_sub₀ (by norm_num), div_le_iff₀ (by positivity)]
    refine (ten_zpow_digitCount_le hne).trans_eq ?_
    rw [Nat.pow_eq, zpow_natCast, zpow_neg, zpow_natCast, show (10 : ℚ) = 5 * 2 by norm_num,
      mul_pow]
    push_cast
    field_simp

/-- **Eighteen digits** make a grid finer than the reading interval. -/
theorem unit_lt_of_eighteen (hm : 0 < m) (hlt : m < 2 ^ 53) (e : ℤ) :
    (scaled m e (leadingExponent m e - 17)).unit <
      3 * quarter e (leadingExponent m e - 17) := by
  have hstep : (10 : ℚ) ^ (leadingExponent m e - 17) / 2 ^ e < 3 / 4 := by
    rw [zpow_sub₀ (by norm_num), div_div, div_lt_iff₀ (by positivity)]
    have hbits : (m : ℚ) < 2 ^ 53 := by exact_mod_cast hlt
    calc (10 : ℚ) ^ leadingExponent m e ≤ m * 2 ^ e := ten_zpow_leadingExponent_le hm e
      _ < 2 ^ 53 * 2 ^ e := by gcongr
      _ ≤ 3 / 4 * 10 ^ 17 * 2 ^ e := by
        gcongr
        norm_num
      _ = 3 / 4 * (10 ^ (17 : ℤ) * 2 ^ e) := mul_assoc _ _ _
  have hiff := quarter_mul_le_iff m e (leadingExponent m e - 17) 3 1
  rw [Nat.one_mul, Nat.cast_one, one_mul] at hiff
  exact Nat.not_le.1 (mt hiff.1 (not_le.2 (by exact_mod_cast hstep)))

theorem nearest?_eighteen_ne_none (hm : 0 < m) (hlt : m < 2 ^ 53) (e : ℤ) :
    (scaled m e (leadingExponent m e - 17)).nearest? even tie ≠ none := by
  have hunit := unit_lt_of_eighteen hm hlt e
  have hpos := quarter_pos e (leadingExponent m e - 17)
  have hfour : 4 * quarter e (leadingExponent m e - 17) ≤
      4 * m * quarter e (leadingExponent m e - 17) := Nat.mul_le_mul_right _ (by omega)
  refine Scaled.nearest?_ne_none (unit_pos _ _ _) ?_ ?_ ?_
  all_goals
    rw [scaled_eq] at hunit ⊢
    generalize quarter e (leadingExponent m e - 17) = step at hpos hunit hfour ⊢
    rcases lowerGap_cases m e with hgap | ⟨hgap, -⟩ <;>
      simp only [hgap, Nat.sub_mul, Nat.add_mul] at hunit ⊢ <;> omega

/-- The number that a decimal stands for. -/
def Decimal.value (d : Decimal) : ℚ := d.digits * 10 ^ d.exponent

/-- **The search ends** with a grid point in the reading interval. -/
theorem searchGrids_spec (hm : 0 < m) (hlt : m < 2 ^ 53) (e : ℤ) (tie : TieRule) (tries count : ℕ)
    (htries : 0 < tries) (hsum : tries + count = 19) :
    ∃ d : Decimal, ReadsAs m e d.value ∧
      searchGrids m e tie (leadingExponent m e) tries count = d.trimZeros 20 := by
  induction tries generalizing count with
  | zero => exact absurd htries (Nat.lt_irrefl 0)
  | succ tries ih =>
    rw [searchGrids]
    split
    next d hfound => exact ⟨⟨d, _⟩, .of_holds hm (Scaled.holds_of_nearest? hfound), rfl⟩
    next hnone =>
      rcases Nat.eq_zero_or_pos tries with rfl | hpos
      · obtain rfl : count = 18 := by omega
        exact absurd hnone (nearest?_eighteen_ne_none hm hlt e)
      · exact ih (count + 1) hpos (by omega)

/-! ### The digits -/

/-- **Zeros at the end** can be dropped. -/
theorem value_trimZeros (fuel : ℕ) (d : Decimal) : (d.trimZeros fuel).value = d.value := by
  induction fuel generalizing d with
  | zero => rfl
  | succ fuel ih =>
    rw [Decimal.trimZeros]
    split
    next hzero =>
      have hdigits : (d.digits : ℚ) = (d.digits / 10 : ℕ) * 10 := by
        exact_mod_cast (Nat.div_mul_cancel (Nat.dvd_of_mod_eq_zero hzero.2)).symm
      rw [ih, Decimal.value, Decimal.value, hdigits, zpow_add_one₀ (by norm_num)]
      ring
    next => rfl

/-- **The digits of a positive double** are in its reading interval. -/
theorem readsAs_shortest (h : Unpacks x m e) (tie : TieRule) :
    ReadsAs m e (shortest tie x).value := by
  obtain ⟨d, hreads, hsearch⟩ := searchGrids_spec h.pos h.lt e tie 18 1 (by decide) (by decide)
  rw [shortest, h.binary]
  simp only
  rw [if_neg (Nat.ne_of_gt h.pos), hsearch, value_trimZeros]
  exact hreads

/-- The smallest double is written as a number that is a little larger. -/
theorem le_value_shortest_smallest (tie : TieRule) :
    2 ^ (-1074 : ℤ) ≤ (shortest tie (.ofBits 1)).value := by
  have hshortest : shortest tie (.ofBits 1) = ⟨5, -324⟩ := by cases tie <;> decide +kernel
  have hpowers : (10 ^ 324 : ℕ) ≤ 2 ^ 1074 * 5 := by decide +kernel
  have hpowers' : (10 : ℚ) ^ 324 ≤ 2 ^ 1074 * 5 := by exact_mod_cast hpowers
  rw [hshortest, Decimal.value]
  change ((2 : ℚ) ^ 1074)⁻¹ ≤ (5 : ℕ) * (10 ^ 324)⁻¹
  rwa [← div_eq_mul_inv, le_div_iff₀ (by positivity), inv_mul_le_iff₀ (by positivity)]

/-- The digits of a positive double are read as the double, however many zeros they end in. -/
theorem ofDecimal_shortest_of_pos (hx : isNumber x) (hpos : 0 < level x) (tie : TieRule) {d : ℕ}
    (h : d * 10 ^ k = (shortest tie x).value) : ofDecimal d k = x := by
  obtain ⟨m, e, hu⟩ := exists_unpacks hx hpos
  have hreads := readsAs_shortest hu tie
  have hvalue := hreads.pos hu.pos
  have hdigits : d ≠ 0 := fun hzero => by
    rw [← h, hzero, Nat.cast_zero, zero_mul] at hvalue
    exact lt_irrefl 0 hvalue
  refine ofDecimal_eq hx hpos hdigits ?_ (h ▸ hreads.rounded hu)
  rw [h]
  rcases Nat.lt_or_ge 1 m with hlarge | hsmall
  · have hm : (2 : ℚ) ≤ m := by exact_mod_cast hlarge
    have hlow : 1 ≤ (shortest tie x).value / 2 ^ e := by
      have := hreads.low
      rcases lowerGap_cases m e with hgap | ⟨hgap, -⟩ <;> rw [hgap] at this <;>
        push_cast at this <;> linarith
    rw [le_div_iff₀ (by positivity), one_mul] at hlow
    exact (zpow_le_zpow_right₀ one_le_two hu.le).trans hlow
  · obtain rfl : m = 1 := Nat.le_antisymm hsmall hu.pos
    obtain rfl : e = -1074 := hu.full (by decide)
    obtain rfl : x = .ofBits 1 := eq_of_level_eq hpos.ne' (hu.level.trans (by decide +kernel))
    exact le_value_shortest_smallest tie

theorem magnitude_eq_natAbs (x : Float) : magnitude x = (level x).natAbs := by
  rw [level]
  split <;> omega

/-- The digits do not tell the sign. -/
theorem shortest_neg (hx : isNumber x) (tie : TieRule) : shortest tie (-x) = shortest tie x := by
  have hmagnitude : magnitude (-x) = magnitude x := by
    rw [magnitude_eq_natAbs, magnitude_eq_natAbs, (level_neg hx).2, Int.natAbs_neg]
  rw [shortest, shortest, binary, binary, hmagnitude]

theorem isNegative_iff_of_level (hne : level x ≠ 0) : isNegative x = true ↔ level x < 0 := by
  rw [level] at hne ⊢
  cases hx : isNegative x with
  | true =>
    rw [hx, if_pos rfl] at hne
    rw [if_pos rfl]
    exact iff_of_true rfl (by omega)
  | false =>
    rw [if_neg Bool.false_ne_true]
    exact iff_of_false Bool.false_ne_true (by omega)

theorem shortest_of_level_eq_zero (hzero : level x = 0) (tie : TieRule) :
    shortest tie x = ⟨0, 0⟩ := by
  rcases eq_zero_of_level hzero with rfl | rfl <;> cases tie <;> decide +kernel

/-- Only a zero has no digits but zero, and it has no exponent. -/
theorem exponent_shortest (hx : isNumber x) (tie : TieRule) (h : (shortest tie x).digits = 0) :
    (shortest tie x).exponent = 0 := by
  have hpos : ∀ {y}, isNumber y → 0 < level y → (shortest tie y).digits ≠ 0 := fun hy hlevel h => by
    obtain ⟨m, e, hu⟩ := exists_unpacks hy hlevel
    have hvalue := (readsAs_shortest hu tie).pos hu.pos
    rw [Decimal.value, h, Nat.cast_zero, zero_mul] at hvalue
    exact lt_irrefl 0 hvalue
  rcases lt_trichotomy (level x) 0 with hneg | hzero | hlevel
  · obtain ⟨hnumber, hlevel⟩ := level_neg hx
    rw [← shortest_neg hx] at h
    exact absurd h (hpos hnumber (by omega))
  · rw [shortest_of_level_eq_zero hzero]
  · exact absurd h (hpos hx hlevel)

/-- **The digits of a double are read as the double**, with its sign. -/
theorem ofDecimal_shortest (hx : isNumber x) (tie : TieRule) {d : ℕ}
    (h : d * 10 ^ k = (shortest tie x).value) :
    (if isNegative x then -ofDecimal d k else ofDecimal d k) = x := by
  rcases lt_trichotomy (level x) 0 with hneg | hzero | hpos
  · obtain ⟨hnumber, hlevel⟩ := level_neg hx
    rw [if_pos ((isNegative_iff_of_level hneg.ne).2 hneg),
      ofDecimal_shortest_of_pos hnumber (by omega) tie (by rw [h, shortest_neg hx]),
      neg_neg_of_level hx hneg.ne]
  · have hdigits : d = 0 := by
      rw [shortest_of_level_eq_zero hzero, Decimal.value, Nat.cast_zero, zero_mul,
        mul_eq_zero_iff_right] at h
      · exact_mod_cast h
      · positivity
    rw [hdigits, ofDecimal, if_pos rfl]
    rcases eq_zero_of_level hzero with rfl | rfl <;> decide +kernel
  · rw [if_neg fun hsign => hpos.not_gt ((isNegative_iff_of_level hpos.ne').1 hsign)]
    exact ofDecimal_shortest_of_pos hx hpos tie h

end Telemetry.Double
