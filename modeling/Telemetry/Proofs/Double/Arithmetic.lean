import Telemetry.Proofs.Double.Rounding

/-!
# Arithmetic of positive doubles

Products, quotients, sums and converted counts of positive doubles are the exact results rounded
(`level_mul`, `level_div`, `level_add`, `level_toFloat`), as long as these are not too large. So
they grow with their arguments, and a bound for one argument bounds the result by that of one
closed computation.

What is computed is packed into 64 bits and unpacked again the next time. A canonical number of an
exponent that has a place in the bits comes out as it was (`unpack_pack`).
-/

namespace Telemetry.Double

open Float.Model (Format UnpackedFloat totalExponent)
open Float.Model.UnpackedFloat

/-! ### Packing -/

/-- The level of the first number that is too large for a double. -/
def levelLimit : ℤ := 2047 * 2 ^ 52

theorem unpackSign_packComponents {spec : Format} (sign : Sign)
    (exponent : BitVec spec.exponentBits) (mantissa : BitVec spec.mantissaBitsWithoutImplicit) :
    unpackSign (packComponents spec sign exponent mantissa) = sign.toBitVec := by
  refine BitVec.eq_of_getLsbD_eq fun i hi => ?_
  obtain rfl : i = 0 := by omega
  simp [unpackSign, packComponents, BitVec.getLsbD_append, BitVec.getElem_append]

theorem ofBitVec_toBitVec (sign : Sign) : Sign.ofBitVec sign.toBitVec = sign := by
  cases sign <;> rfl

theorem toNat_one_append (mantissa : BitVec 52) :
    (1#1 ++ mantissa).toNat = 2 ^ 52 + mantissa.toNat := by
  rw [BitVec.toNat_append, ← Nat.shiftLeft_add_eq_or_of_lt (BitVec.isLt _)]
  rfl

/-- What is packed of a number, unpacked again: its sign, and a mantissa that has one bit more
unless the exponent field is zero. -/
theorem unpack_packComponents (sign : Sign) {field : BitVec 11} (mantissa : BitVec 52)
    (hfield : field ≠ -1#11) :
    UnpackedFloat.unpack Format.binary64 (packComponents Format.binary64 sign field mantissa) =
      if field = 0#11 then
        if h : mantissa = 0#52 then .zero sign
        else .finite sign mantissa.toNat (field.toNat - 1075 + 1)
          (by simpa [BitVec.toNat_pos, BitVec.pos_iff_ne_zero] using h)
      else .finite sign (1#1 ++ mantissa).toNat (field.toNat - 1075)
        (by rw [toNat_one_append]; omega) := by
  rw [UnpackedFloat.unpack]
  simp only [unpackExponent_packComponents, unpackMantissa_packComponents,
    unpackSign_packComponents, ofBitVec_toBitVec]
  rw [if_neg hfield]
  rfl

/-- **A canonical number that is not too large** is what it has been packed as. -/
theorem unpack_pack {u : UnpackedFloat} (h : IsCanonical u) (hsmall : |levelOf u| < levelLimit) :
    UnpackedFloat.unpack Format.binary64 (UnpackedFloat.pack Format.binary64 u) = u := by
  cases u with
  | infinity => exact h.elim
  | notANumber => exact h.elim
  | zero sign =>
    have hones : 0#11 ≠ -1#11 := by decide
    exact unpack_packComponents sign 0#52 hones
  | finite sign m e hm =>
    obtain ⟨hbits, hlow, hfull⟩ := h
    have hlevel : ((e + 1074) * 2 ^ 52 + m : ℤ) < levelLimit := by
      cases sign with
      | positive => exact (abs_lt.1 hsmall).2
      | negative => exact neg_lt_neg_iff.1 (abs_lt.1 hsmall).1
    rw [levelLimit] at hlevel
    -- the exponent has a place in its field
    have hroom : (e + 1023 + 52).toNat < 2047 := by omega
    have hfield : (BitVec.ofNat 11 (e + 1023 + 52).toNat).toNat = (e + 1023 + 52).toNat := by
      rw [BitVec.toNat_ofNat]
      exact Nat.mod_eq_of_lt (by omega)
    have hmantissa : (BitVec.ofNat 52 m).toNat = m % 2 ^ 52 := BitVec.toNat_ofNat m 52
    rw [UnpackedFloat.pack]
    change UnpackedFloat.unpack _ (if 2 ^ 11 ≤ (e + 1023 + 52).toNat + 1 then _ else
      if m.log2 + 1 = 53 then _ else _) = _
    rw [if_neg (by omega)]
    split
    next hlog =>
      have hnormal : 2 ^ 52 ≤ m := by
        rw [← show m.log2 = 52 by omega]
        exact Nat.log2_self_le (Nat.ne_of_gt hm)
      have hones : BitVec.ofNat 11 (e + 1023 + 52).toNat ≠ -1#11 := fun heq => by
        rw [heq] at hfield
        change 2047 = _ at hfield
        omega
      have hzero : BitVec.ofNat 11 (e + 1023 + 52).toNat ≠ 0#11 := fun heq => by
        rw [heq] at hfield
        change 0 = _ at hfield
        omega
      refine (unpack_packComponents sign (BitVec.ofNat 52 m) hones).trans ?_
      rw [if_neg hzero]
      congr 1
      · rw [toNat_one_append, hmantissa]
        omega
      · rw [hfield]
        omega
    next hlog =>
      have hsubnormal : m < 2 ^ 52 := by
        by_contra hge
        have hlow := (Nat.le_log2 (Nat.ne_of_gt hm)).2 (Nat.not_lt.1 hge)
        have hhigh := log2_le_of_lt hbits
        omega
      have hne : BitVec.ofNat 52 m ≠ 0#52 := fun heq => by
        rw [heq] at hmantissa
        change 0 = _ at hmantissa
        omega
      have hleast := hfull hsubnormal
      refine (unpack_packComponents sign (BitVec.ofNat 52 m) (by decide)).trans ?_
      rw [if_pos rfl, dif_neg hne]
      congr 1
      · rw [hmantissa]
        omega
      · exact hleast.symm

/-- A double that has been packed from a canonical number. -/
theorem number_of_pack {x : Float} {u : UnpackedFloat} (h : IsCanonical u)
    (hsmall : |levelOf u| < levelLimit)
    (hx : x.toModel.unpack =
      UnpackedFloat.unpack Format.binary64 (UnpackedFloat.pack Format.binary64 u)) :
    isNumber x ∧ level x = levelOf u := by
  rw [unpack_pack h hsmall] at hx
  have hnumber : isNumber x := by
    rw [← isFinite_eq_isNumber]
    change x.toModel.unpack.isFinite = true
    rw [hx]
    cases u with
    | infinity => exact h.elim
    | notANumber => exact h.elim
    | _ => rfl
  exact ⟨hnumber, by rw [← (unpack_spec hnumber).2, hx]⟩

/-! ### The numbers that doubles stand for -/

/-- A positive double, unpacked into mantissa and exponent. -/
structure Unpacks (x : Float) (m : ℕ) (e : ℤ) : Prop where
  pos : 0 < m
  unpack : x.toModel.unpack = .finite .positive m e pos
  lt : m < 2 ^ 53
  le : -1074 ≤ e
  full : m < 2 ^ 52 → e = -1074
  level : level x = (e + 1074) * 2 ^ 52 + m

/-- **The number that a positive double stands for.** -/
def value (x : Float) : ℚ :=
  match x.toModel.unpack with
  | .finite .positive m e _ => m * 2 ^ e
  | _ => 0

variable {x y : Float} {m m' : ℕ} {e e' : ℤ}

theorem exists_unpacks (hx : isNumber x) (hpos : 0 < level x) : ∃ m e, Unpacks x m e := by
  obtain ⟨hcanonical, hlevel⟩ := unpack_spec hx
  cases hunpack : x.toModel.unpack with
  | infinity => exact (hunpack ▸ hcanonical).elim
  | notANumber => exact (hunpack ▸ hcanonical).elim
  | zero sign =>
    rw [hunpack] at hlevel
    exact absurd hpos (by rw [← hlevel]; exact lt_irrefl 0)
  | finite sign m e hm =>
    rw [hunpack] at hcanonical hlevel
    obtain ⟨hlt, hle, hfull⟩ := hcanonical
    cases sign with
    | positive => exact ⟨m, e, hm, hunpack, hlt, hle, hfull, hlevel.symm⟩
    | negative =>
      have hneg : level x = -((e + 1074) * 2 ^ 52 + m) := hlevel.symm
      omega

theorem Unpacks.value (h : Unpacks x m e) : value x = m * 2 ^ e := by
  rw [Double.value, h.unpack]

theorem Unpacks.value_pos (h : Unpacks x m e) : 0 < Double.value x := by
  have hm : (0 : ℚ) < m := by exact_mod_cast h.pos
  rw [h.value]
  positivity

theorem Unpacks.log_value (h : Unpacks x m e) : Int.log 2 (Double.value x) = m.log2 + e := by
  have hcut : Double.value x / 2 ^ e = m := by
    rw [h.value, mul_div_cancel_right₀ _ (by positivity)]
  exact log_eq_of_exact (Nat.ne_of_gt h.pos) hcut

theorem Unpacks.place_value (h : Unpacks x m e) : place (Double.value x) = e := by
  have hle := h.le
  have hhigh := log2_le_of_lt h.lt
  rw [place, h.log_value]
  rcases Nat.lt_or_ge m (2 ^ 52) with hsub | hnormal
  · have hleast := h.full hsub
    omega
  · have hlow := (Nat.le_log2 (Nat.ne_of_gt h.pos)).2 hnormal
    omega

/-- **A double is the double next to its own number.** -/
theorem level_eq_rounded (hx : isNumber x) (hpos : 0 < level x) : level x = rounded (value x) := by
  obtain ⟨m, e, h⟩ := exists_unpacks hx hpos
  have hcut : value x / 2 ^ e = (m : ℤ) := by
    rw [h.value, mul_div_cancel_right₀ _ (by positivity), Int.cast_natCast]
  rw [rounded, h.place_value, hcut, nearest_intCast, h.level]

theorem value_pos (hx : isNumber x) (hpos : 0 < level x) : 0 < value x := by
  obtain ⟨m, e, h⟩ := exists_unpacks hx hpos
  exact h.value_pos

/-- The number can be told from the level. -/
theorem value_of_level (hx : isNumber x) (hm : 2 ^ 52 ≤ m) (hm' : m < 2 ^ 53) (he : -1074 ≤ e)
    (h : level x = (e + 1074) * 2 ^ 52 + m) : value x = m * 2 ^ e := by
  obtain ⟨n, k, hu⟩ := exists_unpacks hx (by omega)
  have hlevel := hu.level
  have hlt := hu.lt
  have hle := hu.le
  have hfull := hu.full
  obtain rfl : k = e := by omega
  obtain rfl : n = m := by omega
  exact hu.value

/-- **Twice the number** is one power of two up. -/
theorem value_eq_two_mul (hx : isNumber x) (hlow : 2 ^ 52 ≤ level x) (hy : isNumber y)
    (h : level y = level x + 2 ^ 52) : value y = 2 * value x := by
  obtain ⟨m, e, hu⟩ := exists_unpacks hx (by omega)
  have hlevel := hu.level
  have hlt := hu.lt
  have hle := hu.le
  have hfull := hu.full
  rw [value_of_level (m := m) (e := e + 1) hy (by omega) hlt (by omega) (by omega), hu.value,
    zpow_add_one₀ two_ne_zero]
  ring

theorem value_le_value (hx : isNumber x) (hy : isNumber y) (hpos : 0 < level x)
    (h : level x ≤ level y) : value x ≤ value y := by
  by_contra hlt
  have hmono := rounded_mono (value_pos hy (hpos.trans_le h)) (not_le.1 hlt).le
  rw [← level_eq_rounded hx hpos, ← level_eq_rounded hy (hpos.trans_le h)] at hmono
  obtain ⟨m, e, hu⟩ := exists_unpacks hx hpos
  obtain ⟨m', e', hu'⟩ := exists_unpacks hy (hpos.trans_le h)
  have hlevel := hu.level
  have hlevel' := hu'.level
  have hbits := hu.lt
  have hbits' := hu'.lt
  have hlow := hu.le
  have hlow' := hu'.le
  have hfull := hu.full
  have hfull' := hu'.full
  obtain rfl : e = e' := by omega
  obtain rfl : m = m' := by omega
  exact hlt (hu.value.trans hu'.value.symm).le

theorem value_lt_value (hx : isNumber x) (hy : isNumber y) (hpos : 0 < level x)
    (h : level x < level y) : value x < value y := by
  by_contra hle
  have hmono := rounded_mono (value_pos hy (hpos.trans h)) (not_lt.1 hle)
  rw [← level_eq_rounded hx hpos, ← level_eq_rounded hy (hpos.trans h)] at hmono
  omega

theorem toBits_of_level_pos (h : 0 < level x) : (x.toBits.toNat : ℤ) = level x := by
  have hbits := x.toBits.toNat_lt
  rw [level, magnitude, signBit] at h ⊢
  cases hx : isNegative x with
  | true =>
    rw [hx, if_pos rfl] at h
    omega
  | false =>
    rw [isNegative, signBit, decide_eq_false_iff_not] at hx
    rw [if_neg Bool.false_ne_true]
    omega

theorem toBits_of_level_neg (h : level x < 0) : (x.toBits.toNat : ℤ) = signBit - level x := by
  have hbits := x.toBits.toNat_lt
  rw [level, magnitude, signBit] at h ⊢
  cases hx : isNegative x with
  | true =>
    rw [isNegative, signBit, decide_eq_true_iff] at hx
    rw [if_pos rfl]
    omega
  | false =>
    rw [hx, if_neg Bool.false_ne_true] at h
    omega

/-- A double that is level with no zero is told by its level. -/
theorem eq_of_level_eq (hne : level x ≠ 0) (h : level x = level y) : x = y := by
  refine eq_of_toBits_eq (UInt64.toNat_inj.1 ?_)
  rcases hne.lt_or_gt with hneg | hpos
  · have hx := toBits_of_level_neg hneg
    have hy := toBits_of_level_neg (h ▸ hneg)
    omega
  · have hx := toBits_of_level_pos hpos
    have hy := toBits_of_level_pos (h ▸ hpos)
    omega

/-- What is level with zero is one of the two zeros. -/
theorem eq_zero_of_level (h : level x = 0) : x = 0.0 ∨ x = -0.0 := by
  have hmagnitude : magnitude x = 0 := by
    rw [level] at h
    split at h <;> omega
  have hzero := eq_zero_of_magnitude hmagnitude
  split at hzero
  · exact .inr hzero
  · exact .inl hzero

/-- A positive double stands above zero in the total order as well. -/
theorem rank_nonneg_of_level_pos (h : 0 < level x) : 0 ≤ rank x := by
  rw [level] at h
  rw [rank]
  cases hx : isNegative x with
  | true =>
    rw [hx, if_pos rfl] at h
    omega
  | false =>
    rw [if_neg Bool.false_ne_true]
    exact Int.natCast_nonneg _

/-! ### Operations -/

theorem rounded_lt_levelLimit {q : ℚ} (hlog : Int.log 2 q ≤ 1000) : rounded q < levelLimit := by
  have hnearest := nearest_div_place_le q
  have hplace : place q ≤ 948 := by
    rw [place]
    omega
  rw [rounded, levelLimit]
  omega

theorem rounded_nonneg {q : ℚ} (hq : 0 < q) : 0 ≤ rounded q := by
  have hplace := le_place q
  have hnearest : (0 : ℤ) ≤ nearest (q / 2 ^ place q) := by
    refine le_nearest ?_
    rw [Int.cast_zero]
    positivity
  rw [rounded]
  omega

/-- What has been computed by rounding a positive number. -/
theorem number_of_rounded {q : ℚ} (hq : 0 < q) (hsmall : rounded q < levelLimit) {u : UnpackedFloat}
    (h : IsCanonical u ∧ levelOf u = Sign.positive.apply (rounded q))
    (hx : x.toModel.unpack =
      UnpackedFloat.unpack Format.binary64 (UnpackedFloat.pack Format.binary64 u)) :
    isNumber x ∧ level x = rounded q := by
  obtain ⟨hcanonical, hlevel⟩ := h
  have habs : |levelOf u| < levelLimit := by
    rw [hlevel]
    exact (abs_of_nonneg (rounded_nonneg hq)).trans_lt hsmall
  obtain ⟨hnumber, hx⟩ := number_of_pack hcanonical habs hx
  exact ⟨hnumber, hx.trans hlevel⟩

/-- **The opposite** of a number is level with the opposite. -/
theorem level_neg (hx : isNumber x) : isNumber (-x) ∧ level (-x) = -level x := by
  obtain ⟨hcanonical, hlevel⟩ := unpack_spec hx
  have hneg : IsCanonical x.toModel.unpack.neg ∧ levelOf x.toModel.unpack.neg = -level x := by
    rw [← hlevel]
    cases hunpack : x.toModel.unpack with
    | infinity => exact (hunpack ▸ hcanonical).elim
    | notANumber => exact (hunpack ▸ hcanonical).elim
    | zero sign => exact ⟨trivial, rfl⟩
    | finite sign m e hm =>
      rw [hunpack] at hcanonical
      cases sign with
      | positive => exact ⟨hcanonical, rfl⟩
      | negative => exact ⟨hcanonical, (neg_neg _).symm⟩
  have hsmall : |levelOf x.toModel.unpack.neg| < levelLimit := by
    rw [isNumber, decide_eq_true_iff] at hx
    rw [hneg.2, abs_neg, levelLimit, abs_lt, level]
    split <;> omega
  obtain ⟨hnumber, hlevel'⟩ := number_of_pack (x := -x) hneg.1 hsmall rfl
  exact ⟨hnumber, hlevel'.trans hneg.2⟩

/-- The opposite of the opposite, unless it is a zero. -/
theorem neg_neg_of_level (hx : isNumber x) (hne : level x ≠ 0) : - -x = x := by
  obtain ⟨hnumber, hlevel⟩ := level_neg hx
  obtain ⟨-, hlevel'⟩ := level_neg hnumber
  rw [hlevel, neg_neg] at hlevel'
  exact eq_of_level_eq (hlevel' ▸ hne) hlevel'

/-- **Rounding a mantissa** that may have too few bits as well as too many. -/
theorem round_spec (sign : Sign) {n : ℕ} (hn : n ≠ 0) (e : ℤ) :
    IsCanonical (UnpackedFloat.round Format.binary64 sign n e) ∧
      levelOf (UnpackedFloat.round Format.binary64 sign n e) =
        sign.apply (rounded (n * 2 ^ e)) := by
  have hpos : (0 : ℚ) < n := by exact_mod_cast Nat.pos_of_ne_zero hn
  have hcut : (n * 2 ^ e : ℚ) / 2 ^ e = n := mul_div_cancel_right₀ _ (by positivity)
  have htarget : Format.binary64.targetExponent (totalExponent n e) = place (n * 2 ^ e) := by
    rw [place, log_eq_of_exact hn hcut]
    change max ((n.log2 : ℤ) + 1 + e - 53) (-1074) = _
    omega
  rw [UnpackedFloat.round, htarget]
  simp only [decreaseExponent]
  generalize hshift : (e - place (n * 2 ^ e)).toNat = shift
  refine roundWithAccuracy_spec sign ?_ ?_ (by omega)
  · rw [Nat.shiftLeft_eq]
    exact Nat.mul_ne_zero hn (Nat.two_pow_pos shift).ne'
  · have hexact := tells_exact (n <<< shift)
    have hsame : (n * 2 ^ e : ℚ) / 2 ^ (e - shift) = ((n <<< shift : ℕ) : ℚ) := by
      rw [Nat.shiftLeft_eq, zpow_sub₀ two_ne_zero, zpow_natCast]
      push_cast
      field_simp
    rwa [hsame]

/-- **A product** is the exact product, rounded. -/
theorem level_mul (hx : isNumber x) (hx' : 0 < level x) (hy : isNumber y) (hy' : 0 < level y)
    (hlog : Int.log 2 (value x * value y) ≤ 1000) :
    isNumber (x * y) ∧ level (x * y) = rounded (value x * value y) := by
  obtain ⟨m, e, h⟩ := exists_unpacks hx hx'
  obtain ⟨m', e', h'⟩ := exists_unpacks hy hy'
  have hne : m * m' ≠ 0 := Nat.mul_ne_zero (Nat.ne_of_gt h.pos) (Nat.ne_of_gt h'.pos)
  have hproduct : value x * value y / 2 ^ (e + e') = ((m * m' : ℕ) : ℚ) := by
    rw [h.value, h'.value, zpow_add₀ two_ne_zero, Nat.cast_mul]
    field_simp
  have hplace : e + e' ≤ place (value x * value y) := by
    rw [place, log_eq_of_exact hne hproduct]
    have hlog := log2_mono (Nat.le_mul_of_pos_right m h'.pos)
    have hlog' := log2_mono (Nat.le_mul_of_pos_left m' h.pos)
    -- one of the mantissas is full, or both exponents are least
    rcases Nat.lt_or_ge m (2 ^ 52) with hsub | hnormal
    · rcases Nat.lt_or_ge m' (2 ^ 52) with hsub' | hnormal'
      · have hleast := h.full hsub
        have hleast' := h'.full hsub'
        omega
      · have hlow := (Nat.le_log2 (Nat.ne_of_gt h'.pos)).2 hnormal'
        omega
    · have hlow := (Nat.le_log2 (Nat.ne_of_gt h.pos)).2 hnormal
      omega
  refine number_of_rounded (mul_pos h.value_pos h'.value_pos) (rounded_lt_levelLimit hlog)
    (roundWithAccuracy_spec .positive hne (hproduct ▸ tells_exact _) hplace) ?_
  change UnpackedFloat.unpack _ (UnpackedFloat.pack _
    (UnpackedFloat.mul _ x.toModel.unpack y.toModel.unpack)) = _
  rw [h.unpack, h'.unpack]
  rfl

/-- Enough bits of a quotient to round by. -/
theorem le_shiftLeft_div (hm : 0 < m) (hm' : 0 < m') {shift : ℕ}
    (hshift : m'.log2 + 53 ≤ m.log2 + shift) : 2 ^ 52 ≤ (m <<< shift) / m' := by
  rw [Nat.le_div_iff_mul_le hm', Nat.shiftLeft_eq]
  calc 2 ^ 52 * m' ≤ 2 ^ 52 * 2 ^ (m'.log2 + 1) := Nat.mul_le_mul_left _ Nat.lt_log2_self.le
    _ = 2 ^ (m'.log2 + 53) := by rw [← Nat.pow_add]; congr 1; omega
    _ ≤ 2 ^ (m.log2 + shift) := Nat.pow_le_pow_right two_pos hshift
    _ = 2 ^ m.log2 * 2 ^ shift := Nat.pow_add ..
    _ ≤ m * 2 ^ shift := Nat.mul_le_mul_right _ (Nat.log2_self_le (Nat.ne_of_gt hm))

/-- **An unpacked quotient** that is no smaller than the smallest double. -/
theorem div_spec (hm : 0 < m) (hm' : 0 < m') {q : ℚ} (hq : q = m * 2 ^ e / (m' * 2 ^ e'))
    (hlow : 2 ^ (-1074 : ℤ) ≤ q) :
    IsCanonical (UnpackedFloat.div Format.binary64 (.finite .positive m e hm)
        (.finite .positive m' e' hm')) ∧
      levelOf (UnpackedFloat.div Format.binary64 (.finite .positive m e hm)
        (.finite .positive m' e' hm')) = Sign.positive.apply (rounded q) := by
  have htarget : Format.binary64.targetExponent (totalExponent m e - totalExponent m' e') =
      max (m.log2 + e - (m'.log2 + e') - 53) (-1074) := by
    change max ((m.log2 : ℤ) + 1 + e - (m'.log2 + 1 + e') - 53) (-1074) = _
    omega
  obtain ⟨e'', he''⟩ : ∃ e'', min (e - e')
    (Format.binary64.targetExponent (totalExponent m e - totalExponent m' e')) = e'' := ⟨_, rfl⟩
  obtain ⟨shift, hshift⟩ : ∃ shift, (e - e' - e'').toNat = shift := ⟨_, rfl⟩
  have hquotient : q / 2 ^ e'' =
      ((m <<< shift / m' : ℕ) : ℚ) + ((m <<< shift % m' : ℕ) : ℚ) / m' := by
    have hpos : (0 : ℚ) < m' := by exact_mod_cast hm'
    have hdiv : ((m <<< shift : ℕ) : ℚ) =
        m' * (m <<< shift / m' : ℕ) + (m <<< shift % m' : ℕ) := by
      exact_mod_cast (Nat.div_add_mod (m <<< shift) m').symm
    have hexponent : e = e' + e'' + shift := by omega
    rw [← mul_div_cancel_left₀ ((m <<< shift / m' : ℕ) : ℚ) hpos.ne', ← add_div, ← hdiv, hq,
      Nat.shiftLeft_eq, hexponent, zpow_add₀ two_ne_zero, zpow_add₀ two_ne_zero, zpow_natCast]
    push_cast
    field_simp
  have htells := tells_accuracyOfFraction (m <<< shift / m') (Nat.mod_lt (m <<< shift) hm')
  rw [← hquotient] at htells
  have hle := htells.le
  have hlt := htells.lt
  rw [mantissa_ofMantissaAndAccuracy] at hle hlt
  -- the quotient has bits enough, unless it is cut at the last place of all
  have hbits : 2 ^ 52 ≤ (m <<< shift) / m' ∨ e'' ≤ -1074 := by
    rcases le_or_gt e'' (-1074) with hlast | hhigh
    · exact .inr hlast
    · exact .inl (le_shiftLeft_div hm hm' (by omega))
  have hne : (m <<< shift) / m' ≠ 0 := by
    rcases hbits with hfull | hlast
    · omega
    · intro hzero
      rw [hzero, Nat.cast_zero, zero_add, div_lt_one (by positivity)] at hlt
      exact absurd (hlow.trans_lt hlt) (zpow_le_zpow_right₀ one_le_two hlast).not_gt
  have hplace : e'' ≤ place q := by
    rcases hbits with hfull | hlast
    · have hlog := (Nat.le_log2 hne).2 hfull
      rw [place, log_eq_of_mantissa hne hle hlt]
      omega
    · exact hlast.trans (le_place q)
  have hspec := roundWithAccuracy_spec .positive hne htells hplace
  subst hshift he''
  exact hspec

/-- **A quotient** that is not very small is the exact quotient, rounded. -/
theorem level_div (hx : isNumber x) (hx' : 0 < level x) (hy : isNumber y) (hy' : 0 < level y)
    (hlow : -1000 ≤ Int.log 2 (value x) - Int.log 2 (value y))
    (hlog : Int.log 2 (value x / value y) ≤ 1000) :
    isNumber (x / y) ∧ level (x / y) = rounded (value x / value y) := by
  obtain ⟨m, e, h⟩ := exists_unpacks hx hx'
  obtain ⟨m', e', h'⟩ := exists_unpacks hy hy'
  have hleast : 2 ^ (-1074 : ℤ) ≤ value x / value y := by
    rw [le_div_iff₀ h'.value_pos]
    calc 2 ^ (-1074 : ℤ) * value y ≤ 2 ^ (-1074 : ℤ) * 2 ^ (Int.log 2 (value y) + 1) := by
          gcongr
          exact (lt_two_zpow_log _).le
      _ = 2 ^ (-1074 + (Int.log 2 (value y) + 1)) := (zpow_add₀ two_ne_zero _ _).symm
      _ ≤ 2 ^ Int.log 2 (value x) := zpow_le_zpow_right₀ one_le_two (by omega)
      _ ≤ value x := by exact_mod_cast Int.zpow_log_le_self one_lt_two h.value_pos
  refine number_of_rounded (div_pos h.value_pos h'.value_pos) (rounded_lt_levelLimit hlog)
    (div_spec h.pos h'.pos (by rw [h.value, h'.value]) hleast) ?_
  change UnpackedFloat.unpack _ (UnpackedFloat.pack _
    (UnpackedFloat.div _ x.toModel.unpack y.toModel.unpack)) = _
  rw [h.unpack, h'.unpack]

theorem normalize_of_ne_zero {n : ℕ} (hn : n ≠ 0) (e : ℤ) (sign : Sign) :
    UnpackedFloat.normalize Format.binary64 n e sign =
      UnpackedFloat.round Format.binary64 .positive n e := by
  have hgt : compare (n : ℤ) 0 = .gt := compare_gt_iff_gt.2 (by omega)
  rw [UnpackedFloat.normalize, hgt]
  rfl

/-- A mantissa is shifted to a lower exponent. -/
theorem shiftLeft_mul_zpow (n : ℕ) (h : e' ≤ e) :
    ((n <<< (e - e').toNat : ℕ) : ℚ) * 2 ^ e' = n * 2 ^ e := by
  obtain ⟨k, hk⟩ := Int.eq_ofNat_of_zero_le (Int.sub_nonneg_of_le h)
  have hexponent : e = k + e' := by omega
  rw [hk, hexponent, zpow_add₀ two_ne_zero, Int.toNat_natCast, Nat.shiftLeft_eq, zpow_natCast]
  push_cast
  ring

/-- **A sum** is the exact sum, rounded. -/
theorem level_add (hx : isNumber x) (hx' : 0 < level x) (hy : isNumber y) (hy' : 0 < level y)
    (hlog : Int.log 2 (value x + value y) ≤ 1000) :
    isNumber (x + y) ∧ level (x + y) = rounded (value x + value y) := by
  obtain ⟨m, e, h⟩ := exists_unpacks hx hx'
  obtain ⟨m', e', h'⟩ := exists_unpacks hy hy'
  have hpos : 0 < m <<< (e - min e e').toNat := by
    rw [Nat.shiftLeft_eq]
    exact Nat.mul_pos h.pos (Nat.two_pow_pos _)
  have hne : m <<< (e - min e e').toNat + m' <<< (e' - min e e').toNat ≠ 0 :=
    Nat.ne_of_gt (Nat.add_pos_left hpos _)
  have hsum : ((m <<< (e - min e e').toNat + m' <<< (e' - min e e').toNat : ℕ) : ℚ) *
      2 ^ min e e' = value x + value y := by
    rw [Nat.cast_add, add_mul, shiftLeft_mul_zpow m (min_le_left e e'),
      shiftLeft_mul_zpow m' (min_le_right e e'), h.value, h'.value]
  have hround := round_spec .positive hne (min e e')
  rw [hsum] at hround
  refine number_of_rounded (add_pos h.value_pos h'.value_pos) (rounded_lt_levelLimit hlog) hround ?_
  change UnpackedFloat.unpack _ (UnpackedFloat.pack _
    (UnpackedFloat.add _ x.toModel.unpack y.toModel.unpack)) = _
  rw [h.unpack, h'.unpack, ← normalize_of_ne_zero hne (min e e') .positive]
  rfl

/-- **A count** as a double is rounded as well. -/
theorem level_toFloat {n : UInt64} (hn : n.toNat ≠ 0) :
    isNumber n.toFloat ∧ level n.toFloat = rounded n.toNat := by
  have hpos : (0 : ℚ) < n.toNat := by exact_mod_cast Nat.pos_of_ne_zero hn
  have hlog : Int.log 2 (n.toNat : ℚ) ≤ 1000 := by
    have hbits : n.toNat.log2 ≤ 63 := log2_le_of_lt n.toNat_lt
    rw [Int.log_natCast, ← Nat.log2_eq_log_two]
    omega
  have hround := round_spec .positive hn 0
  rw [zpow_zero, mul_one] at hround
  refine number_of_rounded hpos (rounded_lt_levelLimit hlog) hround ?_
  change UnpackedFloat.unpack _ (UnpackedFloat.pack _
    (UnpackedFloat.normalize _ (n.toNat : ℤ) 0 .positive)) = _
  rw [normalize_of_ne_zero hn]

theorem toNat_ofNatClamp_le (n : ℕ) : (UInt64.ofNatClamp n).toNat ≤ n := by
  rw [UInt64.ofNatClamp]
  split
  · exact Nat.le_refl n
  next hge => exact (Nat.le_of_not_lt hge).trans' (Nat.sub_le _ _)

/-- **The whole part** of a positive double is below any bound that the double is below. -/
theorem toUInt64_le (hx : isNumber x) (hpos : 0 < level x) {n : ℕ} (h : value x < n + 1) :
    x.toUInt64.toNat ≤ n := by
  obtain ⟨m, e, hu⟩ := exists_unpacks hx hpos
  obtain ⟨up, hup⟩ : ∃ up : ℕ, (e - 0).toNat = up := ⟨_, rfl⟩
  obtain ⟨down, hdown⟩ : ∃ down : ℕ, (0 - (e - up)).toNat = down := ⟨_, rfl⟩
  have hexponent : e + down = up := by omega
  have hwhole : x.toUInt64.toNat ≤ m <<< up / 2 ^ down := by
    have hclamp :=
      toNat_ofNatClamp_le (UnpackedFloat.toInt 0 (UInt64.size - 1) x.toModel.unpack).toNat
    rw [hu.unpack] at hclamp
    change _ ≤ ((ExtendedMantissa.ofMantissaAndAccuracy (m <<< (e - 0).toNat) .exact) >>>
      (0 - (e - (e - 0).toNat)).toNat).mantissa at hclamp
    rw [mantissa_shiftRight, mantissa_ofMantissaAndAccuracy, hup, hdown] at hclamp
    refine le_trans (Nat.le_of_eq ?_) hclamp
    change (UInt64.ofNatClamp (UnpackedFloat.toInt 0 _ x.toModel.unpack).toNat).toNat = _
    rw [hu.unpack]
  refine hwhole.trans (Nat.le_of_lt_succ (Nat.div_lt_of_lt_mul ?_))
  have hcut : ((m <<< up : ℕ) : ℚ) = 2 ^ down * value x := by
    rw [hu.value, Nat.shiftLeft_eq, ← zpow_natCast (2 : ℚ) down]
    push_cast
    rw [← zpow_natCast (2 : ℚ) up, ← hexponent, zpow_add₀ two_ne_zero]
    ring
  have hlt : ((m <<< up : ℕ) : ℚ) < ((2 ^ down * (n + 1) : ℕ) : ℚ) := by
    rw [hcut]
    push_cast
    exact mul_lt_mul_of_pos_left h (by positivity)
  exact_mod_cast hlt

/-! ### Operations are monotone -/

/-- A positive number below `2 ^ 500`. -/
structure IsModest (x : Float) : Prop where
  number : isNumber x
  pos : 0 < level x
  lt : level x < 1523 * 2 ^ 52

variable {z : Float}

theorem IsModest.of_le (h : IsModest y) (hx : isNumber x) (hpos : 0 < level x)
    (hle : level x ≤ level y) : IsModest x :=
  ⟨hx, hpos, hle.trans_lt h.lt⟩

theorem IsModest.value_pos (h : IsModest x) : 0 < value x := Double.value_pos h.number h.pos

theorem IsModest.log_le (h : IsModest x) : Int.log 2 (value x) ≤ 499 := by
  obtain ⟨m, e, hu⟩ := exists_unpacks h.number h.pos
  have hlevel := hu.level
  have hlt := h.lt
  have hfull := hu.full
  have hbits := log2_le_of_lt hu.lt
  rw [hu.log_value]
  omega

theorem IsModest.value_lt (h : IsModest x) : value x < 2 ^ (500 : ℤ) :=
  (lt_two_zpow_log (value x)).trans_le
    (zpow_le_zpow_right₀ one_le_two (Int.add_le_add_right h.log_le 1))

/-- A positive number is at least `2 ^ -500` from this level on. -/
theorem le_log_value (hx : isNumber x) (hlow : 523 * 2 ^ 52 ≤ level x) :
    -500 ≤ Int.log 2 (value x) := by
  obtain ⟨m, e, hu⟩ := exists_unpacks hx (by omega)
  have hlevel := hu.level
  have hbits := hu.lt
  have hfull := hu.full
  have hlog : 2 ^ 52 ≤ m → 52 ≤ m.log2 := (Nat.le_log2 (Nat.ne_of_gt hu.pos)).2
  rw [hu.log_value]
  omega

/-- **A product grows with its factor.** -/
theorem level_mul_mono (hx : isNumber x) (hpos : 0 < level x) (hy : IsModest y) (hz : IsModest z)
    (h : level x ≤ level y) :
    isNumber (x * z) ∧ 0 ≤ level (x * z) ∧ level (x * z) ≤ level (y * z) := by
  have hx' := hy.of_le hx hpos h
  have hlog : ∀ {w}, IsModest w → Int.log 2 (value w * value z) ≤ 1000 := fun {w} hw => by
    have hmul := log_mul_le hw.value_pos hz.value_pos
    have hw' := hw.log_le
    have hz' := hz.log_le
    omega
  obtain ⟨hnumber, hlevel⟩ := level_mul hx hpos hz.number hz.pos (hlog hx')
  obtain ⟨-, hlevel'⟩ := level_mul hy.number hy.pos hz.number hz.pos (hlog hy)
  have hproduct := mul_pos hx'.value_pos hz.value_pos
  rw [hlevel, hlevel']
  exact ⟨hnumber, rounded_nonneg hproduct, rounded_mono hproduct
    (mul_le_mul_of_nonneg_right (value_le_value hx hy.number hpos h) hz.value_pos.le)⟩

/-- **A quotient grows with its dividend.** -/
theorem level_div_mono (hx : isNumber x) (hlow : 523 * 2 ^ 52 ≤ level x) (hy : IsModest y)
    (hz : IsModest z) (hlow' : 523 * 2 ^ 52 ≤ level z) (h : level x ≤ level y) :
    isNumber (x / z) ∧ 0 ≤ level (x / z) ∧ level (x / z) ≤ level (y / z) := by
  have hpos : 0 < level x := by omega
  have hlogz := le_log_value hz.number hlow'
  have hlogz' := hz.log_le
  have hlogs : ∀ {w}, IsModest w → level x ≤ level w →
      -1000 ≤ Int.log 2 (value w) - Int.log 2 (value z) ∧
        Int.log 2 (value w / value z) ≤ 1000 := fun {w} hw hle => by
    have hdiv := log_div_le hw.value_pos hz.value_pos
    have hw' := hw.log_le
    have hw'' := le_log_value hw.number (hlow.trans hle)
    omega
  have hx' := hy.of_le hx hpos h
  obtain ⟨hdiff, hlog⟩ := hlogs hx' (le_refl _)
  obtain ⟨hdiff', hlog'⟩ := hlogs hy h
  obtain ⟨hnumber, hlevel⟩ := level_div hx hpos hz.number hz.pos hdiff hlog
  obtain ⟨-, hlevel'⟩ := level_div hy.number hy.pos hz.number hz.pos hdiff' hlog'
  have hquotient := div_pos hx'.value_pos hz.value_pos
  rw [hlevel, hlevel']
  exact ⟨hnumber, rounded_nonneg hquotient, rounded_mono hquotient
    (div_le_div_of_nonneg_right (value_le_value hx hy.number hpos h) hz.value_pos.le)⟩

/-- **A sum** is not below what has been added to. -/
theorem le_level_add (hx : IsModest x) (hy : IsModest y) : level y ≤ level (x + y) := by
  have hsum : value x + value y < 2 ^ (501 : ℤ) := by
    calc value x + value y < 2 ^ (500 : ℤ) + 2 ^ (500 : ℤ) := add_lt_add hx.value_lt hy.value_lt
      _ = 2 ^ (501 : ℤ) := by rw [← mul_two, ← zpow_add_one₀ two_ne_zero]; rfl
  have hlog := log_lt_of_lt (add_pos hx.value_pos hy.value_pos) hsum
  obtain ⟨-, hlevel⟩ := level_add hx.number hx.pos hy.number hy.pos (by omega)
  rw [hlevel, level_eq_rounded hy.number hy.pos]
  exact rounded_mono hy.value_pos (le_add_of_nonneg_left hx.value_pos.le)

/-- **A larger count** is not a smaller double. -/
theorem level_toFloat_mono {j k : UInt64} (hj : j.toNat ≠ 0) (h : j.toNat ≤ k.toNat) :
    level j.toFloat ≤ level k.toFloat := by
  have hpos : (0 : ℚ) < j.toNat := by exact_mod_cast Nat.pos_of_ne_zero hj
  have hk : k.toNat ≠ 0 := by omega
  rw [(level_toFloat hj).2, (level_toFloat hk).2]
  exact rounded_mono hpos (by exact_mod_cast h)

end Telemetry.Double
