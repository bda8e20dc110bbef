import Telemetry.Double.Reader
import Telemetry.Double.Shortest
import Telemetry.Proofs.Double.Arithmetic

/-!
# Decimal numbers as doubles

A decimal number is read as the double next to it (`ofDecimal_eq`). There are two ways to it, and
both round once:

| the digits and the power of ten | what is computed |
|---|---|
| are doubles themselves | their product or quotient |
| are not | the exact product or quotient, rounded |

Numbers below the smallest double are left out, and so is what is too large for a double.
-/

namespace Telemetry.Double

open Float.Model (Format UnpackedFloat totalExponent)
open Float.Model.UnpackedFloat

variable {x : Float} {m : ℕ} {e : ℤ}

/-! ### Mantissa and exponent -/

theorem magnitude_of_level_pos (h : 0 < level x) : (magnitude x : ℤ) = level x := by
  rw [level] at h ⊢
  cases hx : isNegative x with
  | true =>
    rw [hx, if_pos rfl] at h
    omega
  | false => rw [if_neg Bool.false_ne_true]

/-- **Mantissa and exponent** can be read off the bits. -/
theorem Unpacks.binary (h : Unpacks x m e) : binary x = (m, e) := by
  have hpos := h.pos
  have hle := h.le
  have hlevel := h.level
  have hmagnitude := magnitude_of_level_pos (x := x) (by omega)
  have hlt := h.lt
  have hfull := h.full
  unfold Double.binary
  simp only [leadingBit]
  split
  next hzero =>
    refine Prod.ext ?_ ?_ <;> simp only <;> omega
  next field hfield =>
    refine Prod.ext ?_ ?_ <;> simp only <;> omega

/-- The number that a positive double stands for, by its mantissa and exponent. -/
theorem value_eq_binary (hx : isNumber x) (hpos : 0 < level x) :
    value x = (binary x).1 * 2 ^ (binary x).2 := by
  obtain ⟨m, e, h⟩ := exists_unpacks hx hpos
  rw [h.value, h.binary]

/-! ### Numbers that are doubles -/

/-- **A count of at most 53 bits** is a double itself. -/
theorem value_toFloat {n : UInt64} (hn : n.toNat ≠ 0) (hlt : n.toNat < 2 ^ 53) :
    isNumber n.toFloat ∧ 0 < level n.toFloat ∧ value n.toFloat = n.toNat := by
  obtain ⟨hnumber, hlevel⟩ := level_toFloat hn
  have hlog : n.toNat.log2 ≤ 52 := log2_le_of_lt hlt
  -- its bits, moved up until there are 53 of them
  obtain ⟨shift, hshift⟩ : ∃ shift, 52 - n.toNat.log2 = shift := ⟨_, rfl⟩
  have hfull : 2 ^ 52 ≤ n.toNat <<< shift := by
    rw [Nat.shiftLeft_eq, ← Nat.sub_add_cancel hlog, hshift, Nat.add_comm, Nat.pow_add]
    exact Nat.mul_le_mul_right _ (Nat.log2_self_le hn)
  have hroom : n.toNat <<< shift < 2 ^ 53 := by
    have hsplit : 53 = n.toNat.log2 + 1 + shift := by omega
    rw [Nat.shiftLeft_eq, hsplit, Nat.pow_add]
    exact Nat.mul_lt_mul_of_pos_right Nat.lt_log2_self (Nat.two_pow_pos shift)
  have hcut : (n.toNat : ℚ) / 2 ^ (-(shift : ℤ)) = ((n.toNat <<< shift : ℕ) : ℤ) := by
    rw [Nat.shiftLeft_eq, zpow_neg, div_inv_eq_mul, zpow_natCast]
    push_cast
    rfl
  have hplace : place n.toNat = -(shift : ℤ) := by
    rw [place, Int.log_natCast, ← Nat.log2_eq_log_two]
    omega
  have hrounded : level n.toFloat = (-(shift : ℤ) + 1074) * 2 ^ 52 + (n.toNat <<< shift : ℕ) := by
    rw [hlevel, rounded, hplace, hcut, nearest_intCast]
  have hvalue := value_of_level hnumber hfull hroom (by omega) hrounded
  refine ⟨hnumber, by omega, hvalue.trans ?_⟩
  rw [← Int.cast_natCast (R := ℚ) (n.toNat <<< shift), ← hcut,
    div_mul_cancel₀ _ (by positivity)]

/-- The powers of ten that are doubles themselves. -/
theorem value_powerOfTen {k : ℕ} (hk : k < Float.exactlyRepresentablePowersOfTen.size) :
    isNumber Float.exactlyRepresentablePowersOfTen[k] ∧
      0 < level Float.exactlyRepresentablePowersOfTen[k] ∧
      value Float.exactlyRepresentablePowersOfTen[k] = 10 ^ k := by
  have hall : ∀ k : Fin 23, isNumber Float.exactlyRepresentablePowersOfTen[k] ∧
      0 < level Float.exactlyRepresentablePowersOfTen[k] ∧
      (binary Float.exactlyRepresentablePowersOfTen[k]).1 *
          2 ^ (binary Float.exactlyRepresentablePowersOfTen[k]).2.toNat =
        10 ^ k.val * 2 ^ (-(binary Float.exactlyRepresentablePowersOfTen[k]).2).toNat := by
    decide +kernel
  obtain ⟨hnumber, hpos, hbinary⟩ := hall ⟨k, hk⟩
  refine ⟨hnumber, hpos, (value_eq_binary hnumber hpos).trans ?_⟩
  change (binary Float.exactlyRepresentablePowersOfTen[k]).1 * _ = _ at hbinary
  generalize binary Float.exactlyRepresentablePowersOfTen[k] = parts at hbinary
  obtain ⟨m, e⟩ := parts
  simp only at hbinary ⊢
  have hexact : (m : ℚ) * 2 ^ e.toNat = 10 ^ k * 2 ^ (-e).toNat := by exact_mod_cast hbinary
  obtain ⟨n, rfl | rfl⟩ := Int.eq_nat_or_neg e
  · rw [zpow_natCast]
    simpa using hexact
  · rw [zpow_neg, zpow_natCast, ← div_eq_mul_inv, div_eq_iff (by positivity)]
    simpa using hexact

/-! ### Powers of ten -/

theorem two_pow_le_ten_pow {n k : ℕ} (h : n ≤ 3 * k) : (2 : ℚ) ^ n ≤ 10 ^ k := by
  calc (2 : ℚ) ^ n ≤ 2 ^ (3 * k) := pow_le_pow_right₀ one_le_two h
    _ = (2 ^ 3) ^ k := pow_mul _ _ _
    _ ≤ 10 ^ k := pow_le_pow_left₀ (by norm_num) (by norm_num) k

/-- What is rounded to a double is not much larger than the largest of them. -/
theorem lt_of_rounded_lt {q : ℚ} (hq : 0 < q) (hsmall : rounded q < levelLimit) :
    q < 2 ^ 1025 := by
  have hnearest : (0 : ℤ) ≤ nearest (q / 2 ^ place q) := by
    refine le_nearest ?_
    rw [Int.cast_zero]
    positivity
  have hlog : Int.log 2 q ≤ place q + 52 := by
    have := le_max_left (Int.log 2 q - 52) (-1074)
    rw [place]
    omega
  rw [rounded, levelLimit] at hsmall
  rw [← zpow_natCast]
  exact (lt_two_zpow_log q).trans_le (zpow_le_zpow_right₀ one_le_two (by omega))

/-! ### One operation on two doubles -/

/-- Few digits are a double themselves. -/
theorem value_toUInt64 (hm : m ≠ 0) (hlt : m < 2 ^ 53) :
    isNumber m.toUInt64.toFloat ∧ 0 < level m.toUInt64.toFloat ∧ value m.toUInt64.toFloat = m := by
  have htoNat : m.toUInt64.toNat = m := Nat.mod_eq_of_lt (hlt.trans (by decide))
  have hvalue := value_toFloat (htoNat.symm ▸ hm) (htoNat.symm ▸ hlt)
  rwa [htoNat] at hvalue

theorem level_toFloat_mul (hm : m ≠ 0) (hlt : m < 2 ^ 53) {k : ℕ}
    (hk : k < Float.exactlyRepresentablePowersOfTen.size) :
    isNumber (m.toUInt64.toFloat * Float.exactlyRepresentablePowersOfTen[k]) ∧
      level (m.toUInt64.toFloat * Float.exactlyRepresentablePowersOfTen[k]) =
        rounded (m * 10 ^ k) := by
  obtain ⟨hnumber, hlevel, hvalue⟩ := value_toUInt64 hm hlt
  obtain ⟨hnumber', hlevel', hvalue'⟩ := value_powerOfTen hk
  have hlog : Int.log 2 (m * 10 ^ k : ℚ) < 200 := by
    refine log_lt_of_lt ?_ ?_
    · have : (0 : ℚ) < m := by exact_mod_cast Nat.pos_of_ne_zero hm
      positivity
    · calc (m * 10 ^ k : ℚ) ≤ 2 ^ 53 * 10 ^ 22 := by
            gcongr
            · exact_mod_cast hlt.le
            · norm_num
            · exact Nat.le_of_lt_succ hk
        _ < 2 ^ (200 : ℤ) := by norm_num
  rw [← hvalue, ← hvalue'] at hlog ⊢
  exact level_mul hnumber hlevel hnumber' hlevel' (by omega)

theorem level_toFloat_div (hm : m ≠ 0) (hlt : m < 2 ^ 53) {k : ℕ}
    (hk : k < Float.exactlyRepresentablePowersOfTen.size) :
    isNumber (m.toUInt64.toFloat / Float.exactlyRepresentablePowersOfTen[k]) ∧
      level (m.toUInt64.toFloat / Float.exactlyRepresentablePowersOfTen[k]) =
        rounded (m / 10 ^ k) := by
  obtain ⟨hnumber, hlevel, hvalue⟩ := value_toUInt64 hm hlt
  obtain ⟨hnumber', hlevel', hvalue'⟩ := value_powerOfTen hk
  have hpos : (0 : ℚ) < m := by exact_mod_cast Nat.pos_of_ne_zero hm
  have hlog : 0 ≤ Int.log 2 (m : ℚ) ∧ Int.log 2 (m : ℚ) < 53 := by
    refine ⟨?_, log_lt_of_lt hpos (by exact_mod_cast hlt)⟩
    rw [← Int.zpow_le_iff_le_log one_lt_two hpos, zpow_zero]
    exact_mod_cast Nat.one_le_iff_ne_zero.2 hm
  have hpower : 0 ≤ Int.log 2 (10 ^ k : ℚ) ∧ Int.log 2 (10 ^ k : ℚ) < 100 := by
    refine ⟨?_, log_lt_of_lt (by positivity) ?_⟩
    · rw [← Int.zpow_le_iff_le_log one_lt_two (by positivity), zpow_zero]
      exact one_le_pow₀ (by norm_num)
    · calc (10 ^ k : ℚ) ≤ 10 ^ 22 := pow_le_pow_right₀ (by norm_num) (Nat.le_of_lt_succ hk)
        _ < 2 ^ (100 : ℤ) := by norm_num
  have hquotient := log_div_le hpos (show (0 : ℚ) < 10 ^ k by positivity)
  rw [← hvalue'] at hpower hquotient ⊢
  rw [← hvalue] at hlog hquotient ⊢
  exact level_div hnumber hlevel hnumber' hlevel' (by omega) (by omega)

/-! ### One rounding of the exact number -/

theorem level_ofModel_mul (hm : m ≠ 0) (k : ℕ) (hsmall : rounded (m * 10 ^ k) < levelLimit) :
    isNumber (Float.ofModel (.ofScientific m k)) ∧
      level (Float.ofModel (.ofScientific m k)) = rounded (m * 10 ^ k) := by
  have hone : (1 : ℚ) ≤ m := by exact_mod_cast Nat.one_le_iff_ne_zero.2 hm
  have hq : (0 : ℚ) < m * 10 ^ k := by positivity
  have hrange : k < 1025 := by
    have hlt : (2 : ℚ) ^ k < 2 ^ 1025 := by
      calc (2 : ℚ) ^ k ≤ 10 ^ k := two_pow_le_ten_pow (by omega)
        _ ≤ m * 10 ^ k := le_mul_of_one_le_left (by positivity) hone
        _ < 2 ^ 1025 := lt_of_rounded_lt hq hsmall
    exact (pow_lt_pow_iff_right₀ one_lt_two).1 hlt
  have hproduct : (m * 10 ^ k : ℚ) / 2 ^ (-53 + 0 : ℤ) = ((m <<< 53 * 10 ^ k : ℕ) : ℚ) := by
    rw [Nat.shiftLeft_eq, Int.add_zero, zpow_neg, div_inv_eq_mul]
    push_cast
    ring
  have hne : m <<< 53 * 10 ^ k ≠ 0 := by
    rw [Nat.shiftLeft_eq]
    positivity
  have hplace : (-53 + 0 : ℤ) ≤ place (m * 10 ^ k) := by
    have hlog : 0 ≤ Int.log 2 (m * 10 ^ k : ℚ) := by
      rw [← Int.zpow_le_iff_le_log one_lt_two hq, zpow_zero]
      exact one_le_mul_of_one_le_of_one_le hone (one_le_pow₀ (by norm_num))
    rw [place]
    omega
  refine number_of_rounded hq hsmall
    (roundWithAccuracy_spec .positive hne (hproduct ▸ tells_exact _) hplace) ?_
  change UnpackedFloat.unpack _ (UnpackedFloat.pack _
    (UnpackedFloat.ofScientific Format.binary64 m (k : ℤ))) = _
  rw [UnpackedFloat.ofScientific, dif_neg hm, if_neg, if_neg, if_pos]
  · rfl
  · omega
  · have := Int.natCast_nonneg m.log2
    change ¬ (k : ℤ) < -(2 ^ 11 + m.log2)
    omega
  · change ¬ (k : ℤ) > 2 ^ 11
    omega

theorem level_ofModel_div (hm : m ≠ 0) {k : ℕ} (hk : 0 < k)
    (hlow : 2 ^ (-1074 : ℤ) ≤ (m / 10 ^ k : ℚ)) (hsmall : rounded (m / 10 ^ k) < levelLimit) :
    isNumber (Float.ofModel (.ofScientific m (Int.negOfNat k))) ∧
      level (Float.ofModel (.ofScientific m (Int.negOfNat k))) = rounded (m / 10 ^ k) := by
  have hq : (0 : ℚ) < m / 10 ^ k := lt_of_lt_of_le (by positivity) hlow
  have hrange : k < m.log2 + 1075 := by
    have hlt : (2 : ℚ) ^ k < 2 ^ (m.log2 + 1075) := by
      have hbits : (m : ℚ) < 2 ^ (m.log2 + 1) := by exact_mod_cast Nat.lt_log2_self
      rw [le_div_iff₀ (by positivity), zpow_neg, inv_mul_le_iff₀ (by positivity)] at hlow
      calc (2 : ℚ) ^ k ≤ 10 ^ k := two_pow_le_ten_pow (by omega)
        _ ≤ 2 ^ (1074 : ℤ) * m := hlow
        _ < 2 ^ (1074 : ℤ) * 2 ^ (m.log2 + 1) := by gcongr
        _ = 2 ^ (m.log2 + 1075) := by
          rw [← Nat.cast_ofNat (R := ℤ), zpow_natCast, ← pow_add]
          congr 1
          omega
    exact (pow_lt_pow_iff_right₀ one_lt_two).1 hlt
  have hpower : 0 < 10 ^ (- -(k : ℤ)).toNat := by positivity
  have hquotient : (m / 10 ^ k : ℚ) = m * 2 ^ (0 : ℤ) /
      ((10 ^ (- -(k : ℤ)).toNat : ℕ) * 2 ^ (0 : ℤ)) := by simp
  refine number_of_rounded hq hsmall (div_spec (Nat.pos_of_ne_zero hm) hpower hquotient hlow) ?_
  change UnpackedFloat.unpack _ (UnpackedFloat.pack _
    (UnpackedFloat.ofScientific Format.binary64 m (Int.negOfNat k))) = _
  rw [Int.negOfNat_eq, UnpackedFloat.ofScientific, dif_neg hm, if_neg, if_neg, if_neg]
  · rfl
  · change ¬ 0 ≤ -(k : ℤ)
    omega
  · change ¬ -(k : ℤ) < -(2 ^ 11 + m.log2)
    omega
  · change ¬ -(k : ℤ) > 2 ^ 11
    omega

/-- **Digits times a power of ten** make the double next to their product. -/
theorem level_ofScientific_false (hm : m ≠ 0) (k : ℕ)
    (hsmall : rounded (m * 10 ^ k) < levelLimit) :
    isNumber (Float.ofScientific m false k) ∧
      level (Float.ofScientific m false k) = rounded (m * 10 ^ k) := by
  rw [Float.ofScientific]
  split
  next hfast => exact level_toFloat_mul hm hfast.1 (Nat.lt_succ_of_le hfast.2)
  next => exact level_ofModel_mul hm k hsmall

/-- **Digits over a power of ten** make the double next to their quotient. -/
theorem level_ofScientific_true (hm : m ≠ 0) {k : ℕ} (hk : 0 < k)
    (hlow : 2 ^ (-1074 : ℤ) ≤ (m / 10 ^ k : ℚ)) (hsmall : rounded (m / 10 ^ k) < levelLimit) :
    isNumber (Float.ofScientific m true k) ∧
      level (Float.ofScientific m true k) = rounded (m / 10 ^ k) := by
  rw [Float.ofScientific]
  split
  next hfast => exact level_toFloat_div hm hfast.1 (Nat.lt_succ_of_le hfast.2)
  next => exact level_ofModel_div hm hk hlow hsmall

/-! ### Reading -/

/-- **A number has as many digits** as its size asks for. -/
theorem ten_zpow_digitCount_le {n : ℕ} (hn : n ≠ 0) :
    (10 : ℚ) ^ ((digitCount n : ℤ) - 1) ≤ n := by
  obtain ⟨k, hk⟩ : ∃ k, digitCount n = k + 1 :=
    Nat.exists_eq_add_one.2 Nat.length_toDigits_pos
  have hle : 10 ^ k ≤ n := by
    by_contra hlt
    rcases Nat.eq_zero_or_pos k with rfl | hpos
    · omega
    · have hle := (Nat.length_toDigits_le_iff (by decide) hpos).2 (Nat.not_le.1 hlt)
      rw [digitCount] at hk
      omega
  rw [hk, Nat.cast_succ, add_sub_cancel_right, zpow_natCast]
  exact_mod_cast hle

theorem lt_ten_zpow_digitCount (n : ℕ) : (n : ℚ) < 10 ^ (digitCount n : ℤ) := by
  rw [zpow_natCast]
  exact_mod_cast (Nat.length_toDigits_le_iff (by decide) Nat.length_toDigits_pos).1 (Nat.le_refl _)

/-- A number that is not too large for a double has few digits before the point. -/
theorem digitCount_add_le {d : ℕ} (hd : d ≠ 0) {k : ℤ} (hq : (0 : ℚ) < d * 10 ^ k)
    (hsmall : rounded (d * 10 ^ k) < levelLimit) : (digitCount d : ℤ) + k ≤ 400 := by
  have hlt : (10 : ℚ) ^ (digitCount d - 1 + k : ℤ) < 10 ^ ((400 : ℕ) : ℤ) := by
    rw [zpow_natCast]
    calc (10 : ℚ) ^ (digitCount d - 1 + k : ℤ) = 10 ^ (digitCount d - 1 : ℤ) * 10 ^ k :=
          zpow_add₀ (by norm_num) _ _
      _ ≤ d * 10 ^ k := by
        gcongr
        exact ten_zpow_digitCount_le hd
      _ < 2 ^ 1025 := lt_of_rounded_lt hq hsmall
      _ ≤ 10 ^ 400 := two_pow_le_ten_pow (by decide)
  have := (zpow_lt_zpow_iff_right₀ (by norm_num)).1 hlt
  omega

/-- A number that is not too small for a double has few zeros after the point. -/
theorem le_digitCount_add {d : ℕ} {k : ℤ} (hlow : 2 ^ (-1074 : ℤ) ≤ (d * 10 ^ k : ℚ)) :
    -400 ≤ (digitCount d : ℤ) + k := by
  have hlt : (10 : ℚ) ^ (-400 : ℤ) < 10 ^ (digitCount d + k : ℤ) := by
    calc (10 : ℚ) ^ (-400 : ℤ) ≤ 2 ^ (-1074 : ℤ) :=
          inv_anti₀ (by positivity) (two_pow_le_ten_pow (by decide))
      _ ≤ d * 10 ^ k := hlow
      _ < 10 ^ (digitCount d : ℤ) * 10 ^ k := by
        gcongr
        exact lt_ten_zpow_digitCount d
      _ = 10 ^ (digitCount d + k : ℤ) := (zpow_add₀ (by norm_num) _ _).symm
  have := (zpow_lt_zpow_iff_right₀ (by norm_num)).1 hlt
  omega

/-- **A decimal number is read as the double next to it**, if that is as large as the smallest
double. -/
theorem ofDecimal_eq (hx : isNumber x) (hpos : 0 < level x) {d : ℕ} (hd : d ≠ 0) {k : ℤ}
    (hlow : 2 ^ (-1074 : ℤ) ≤ (d * 10 ^ k : ℚ)) (hrounded : rounded (d * 10 ^ k) = level x) :
    ofDecimal d k = x := by
  have hq : (0 : ℚ) < d * 10 ^ k := lt_of_lt_of_le (by positivity) hlow
  have hsmall : rounded (d * 10 ^ k) < levelLimit := by
    have hmagnitude := magnitude_of_level_pos hpos
    rw [isNumber, decide_eq_true_iff] at hx
    rw [hrounded, levelLimit]
    omega
  -- the exponent is not cut short
  have hnotLarge := digitCount_add_le hd hq hsmall
  have hnotSmall := le_digitCount_add hlow
  have hread : isNumber (ofDecimal d k) ∧ level (ofDecimal d k) = rounded (d * 10 ^ k) := by
    rw [digitCount] at hnotLarge hnotSmall
    unfold ofDecimal
    simp only
    rw [if_neg hd, if_neg (not_lt.2 hnotLarge), if_neg (not_lt.2 hnotSmall)]
    split
    next hnonneg =>
      obtain ⟨n, rfl⟩ := Int.eq_ofNat_of_zero_le hnonneg
      rw [Int.toNat_natCast, zpow_natCast] at *
      exact level_ofScientific_false hd n hsmall
    next hneg =>
      obtain ⟨n, hn⟩ := Int.exists_eq_neg_ofNat (le_of_not_ge hneg)
      subst hn
      have hquotient : (d * 10 ^ (-n : ℤ) : ℚ) = d / 10 ^ n := by
        rw [zpow_neg, zpow_natCast, div_eq_mul_inv]
      rw [hquotient] at hlow hsmall ⊢
      rw [neg_neg, Int.toNat_natCast]
      exact level_ofScientific_true hd (by omega) hlow hsmall
  exact eq_of_level_eq (by rw [hread.2, hrounded]; exact hpos.ne') (hread.2.trans hrounded)

end Telemetry.Double
