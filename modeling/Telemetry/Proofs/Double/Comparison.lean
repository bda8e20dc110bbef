import Telemetry.Double.Order
import Mathlib

/-!
# The readings of a double agree with its comparisons

`Double.level` and `Double.isNumber` read the bits of a double. Comparing doubles unpacks them
into sign, mantissa and exponent instead. Both say the same:

| reading | comparison |
|---|---|
| `isNumber x` | `x.isFinite` (`isFinite_eq_isNumber`) |
| `level x < level y` | `x < y`, of finite doubles (`lt_iff_level_lt`) |
| `level x ≤ level y` | `x ≤ y`, of finite doubles (`le_iff_level_le`) |

The reason is that what is unpacked is *canonical* (`IsCanonical`): a mantissa takes up all its
bits unless the exponent is the least one. Then the exponent decides before the mantissa does,
as it does where both stand side by side in the bits.

The level leaves out one thing that the bits tell: which of the two zeros a double is
(`rank_eq_of_level_eq`).
-/

namespace Telemetry.Double

open Float.Model (Format UnpackedFloat)
open Float.Model.UnpackedFloat

/-! ### Comparing what is unpacked -/

/-- A number whose mantissa takes up 53 bits, or fewer if the exponent is the least one. -/
def IsCanonical : UnpackedFloat → Prop
  | .zero _ => True
  | .finite _ mantissa exponent _ =>
    mantissa < 2 ^ 53 ∧ -1074 ≤ exponent ∧ (mantissa < 2 ^ 52 → exponent = -1074)
  | _ => False

/-- The level of a number by its mantissa and exponent. -/
def levelOf : UnpackedFloat → Int
  | .finite sign mantissa exponent _ => sign.apply ((exponent + 1074) * 2 ^ 52 + mantissa)
  | _ => 0

/-- Of two mantissas with their exponents, the one with the higher exponent stands higher in
the bits. -/
theorem compare_fields {m m' : Nat} {e e' : Int}
    (h : m < 2 ^ 53 ∧ -1074 ≤ e ∧ (m < 2 ^ 52 → e = -1074))
    (h' : m' < 2 ^ 53 ∧ -1074 ≤ e' ∧ (m' < 2 ^ 52 → e' = -1074)) :
    (compare e e').then (compare m m') =
      compare ((e + 1074) * 2 ^ 52 + m) ((e' + 1074) * 2 ^ 52 + m') := by
  rcases lt_trichotomy e e' with he | rfl | he
  · have hlevel : (e + 1074) * 2 ^ 52 + (m : Int) < (e' + 1074) * 2 ^ 52 + m' := by omega
    rw [compare_lt_iff_lt.2 he, compare_lt_iff_lt.2 hlevel]
    rfl
  · rw [compare_eq_iff_eq.2 rfl]
    change compare m m' = _
    rcases lt_trichotomy m m' with hm | rfl | hm
    · rw [compare_lt_iff_lt.2 hm, compare_lt_iff_lt.2 (by omega)]
    · rw [compare_eq_iff_eq.2 rfl, compare_eq_iff_eq.2 rfl]
    · rw [compare_gt_iff_gt.2 hm, compare_gt_iff_gt.2 (by omega)]
  · have hlevel : (e' + 1074) * 2 ^ 52 + (m' : Int) < (e + 1074) * 2 ^ 52 + m := by omega
    rw [compare_gt_iff_gt.2 he, compare_gt_iff_gt.2 hlevel]
    rfl

theorem fields_pos {m : Nat} {e : Int} (hm : 0 < m) (he : -1074 ≤ e) :
    0 < (e + 1074) * 2 ^ 52 + (m : Int) := by
  omega

theorem swap_compare_neg (a b : Int) : (compare a b).swap = compare (-a) (-b) := by
  rcases lt_trichotomy a b with h | rfl | h
  · rw [compare_lt_iff_lt.2 h, compare_gt_iff_gt.2 (by omega)]
    rfl
  · rw [compare_eq_iff_eq.2 rfl, compare_eq_iff_eq.2 rfl]
    rfl
  · rw [compare_gt_iff_gt.2 h, compare_lt_iff_lt.2 (by omega)]
    rfl

/-- **Canonical numbers compare as their levels do.** -/
theorem compare_eq {x y : UnpackedFloat} (hx : IsCanonical x) (hy : IsCanonical y) :
    x.compare y = some (compare (levelOf x) (levelOf y)) := by
  cases x with
  | infinity => exact hx.elim
  | notANumber => exact hx.elim
  | zero sign =>
    cases y with
    | infinity => exact hy.elim
    | notANumber => exact hy.elim
    | zero sign' => rfl
    | finite sign' m e hm =>
      have hlevel := fields_pos hm hy.2.1
      cases sign' with
      | positive => exact congrArg some (compare_lt_iff_lt.2 hlevel).symm
      | negative => exact congrArg some (compare_gt_iff_gt.2 (Int.neg_neg_of_pos hlevel)).symm
  | finite sign m e hm =>
    have hlevel := fields_pos hm hx.2.1
    cases y with
    | infinity => exact hy.elim
    | notANumber => exact hy.elim
    | zero sign' =>
      cases sign with
      | positive => exact congrArg some (compare_gt_iff_gt.2 hlevel).symm
      | negative => exact congrArg some (compare_lt_iff_lt.2 (Int.neg_neg_of_pos hlevel)).symm
    | finite sign' m' e' hm' =>
      have hlevel' := fields_pos hm' hy.2.1
      have hfields := compare_fields hx hy
      cases sign with
      | positive =>
        cases sign' with
        | positive => exact congrArg some hfields
        | negative =>
          exact congrArg some (compare_gt_iff_gt.2 ((Int.neg_neg_of_pos hlevel').trans hlevel)).symm
      | negative =>
        cases sign' with
        | positive =>
          exact congrArg some (compare_lt_iff_lt.2 ((Int.neg_neg_of_pos hlevel).trans hlevel')).symm
        | negative =>
          exact congrArg some ((congrArg Ordering.swap hfields).trans (swap_compare_neg _ _))

/-! ### Unpacking -/

theorem toNat_unpackExponent (x : Float) :
    (@unpackExponent .binary64 x.toBits.toBitVec).toNat = x.toBits.toNat / 2 ^ 52 % 2 ^ 11 := by
  rw [unpackExponent, BitVec.toNat_cast, BitVec.extractLsb_toNat, Nat.shiftRight_eq_div_pow]
  rfl

theorem toNat_unpackMantissa (x : Float) :
    (@unpackMantissa .binary64 x.toBits.toBitVec).toNat = x.toBits.toNat % 2 ^ 52 := by
  rw [unpackMantissa, BitVec.toNat_cast, BitVec.extractLsb_toNat, Nat.shiftRight_zero]
  rfl

theorem toNat_unpackSign (x : Float) :
    (@unpackSign .binary64 x.toBits.toBitVec).toNat = x.toBits.toNat / 2 ^ 63 := by
  rw [unpackSign, BitVec.toNat_cast, BitVec.extractLsb_toNat, Nat.shiftRight_eq_div_pow]
  have := x.toBits.toNat_lt
  change x.toBits.toNat / 2 ^ 63 % 2 ^ 1 = _
  omega

theorem level_eq_apply (x : Float) :
    level x = (Sign.ofBitVec (@unpackSign .binary64 x.toBits.toBitVec)).apply (magnitude x) := by
  have hsign := toNat_unpackSign x
  have hbits := x.toBits.toNat_lt
  have hneg : @unpackSign .binary64 x.toBits.toBitVec = 0#1 ↔ isNegative x = false := by
    rw [← BitVec.toNat_inj, hsign, isNegative, decide_eq_false_iff_not, signBit]
    change _ = 0 ↔ _
    omega
  rw [level, Sign.ofBitVec]
  cases hx : isNegative x with
  | true => rw [if_pos rfl, if_neg (by rw [hneg, hx]; exact Bool.noConfusion)]; rfl
  | false => rw [if_neg Bool.false_ne_true, if_pos (hneg.2 hx)]; rfl

/-- A double with the least exponent field unpacks into zero or a mantissa of its own bits. -/
theorem unpack_spec_of_zero {x : Float}
    (h : @unpackExponent .binary64 x.toBits.toBitVec = 0#11) :
    IsCanonical x.toModel.unpack ∧ levelOf x.toModel.unpack = level x := by
  have hexponent := toNat_unpackExponent x
  have hmantissa := toNat_unpackMantissa x
  have hbits := x.toBits.toNat_lt
  rw [h] at hexponent
  change 0 = _ at hexponent
  rw [level_eq_apply, magnitude, signBit]
  change IsCanonical (UnpackedFloat.unpack Format.binary64 x.toBits.toBitVec) ∧
    levelOf (UnpackedFloat.unpack Format.binary64 x.toBits.toBitVec) = _
  rw [UnpackedFloat.unpack]
  simp only
  rw [h, if_neg (by decide), if_pos rfl]
  split
  next hzero =>
    rw [hzero] at hmantissa
    change 0 = _ at hmantissa
    have hmagnitude : x.toBits.toNat % 0x8000000000000000 = 0 := by omega
    rw [hmagnitude]
    refine ⟨trivial, ?_⟩
    cases Sign.ofBitVec (@unpackSign .binary64 x.toBits.toBitVec) <;> rfl
  next hsubnormal =>
    have hlt : (@unpackMantissa .binary64 x.toBits.toBitVec).toNat < 2 ^ 52 := by omega
    refine ⟨⟨by omega, by decide, fun _ => rfl⟩, congrArg (Sign.apply _) ?_⟩
    change (0 - 1075 + 1 + 1074 : Int) * 2 ^ 52 + _ = _
    omega

/-- A finite double with any other exponent field unpacks into a mantissa with one bit more. -/
theorem unpack_spec_of_ne_zero {x : Float} (hnumber : isNumber x)
    (h : @unpackExponent .binary64 x.toBits.toBitVec ≠ 0#11) :
    IsCanonical x.toModel.unpack ∧ levelOf x.toModel.unpack = level x := by
  have hexponent := toNat_unpackExponent x
  have hmantissa := toNat_unpackMantissa x
  have hbits := x.toBits.toNat_lt
  rw [isNumber, decide_eq_true_iff, magnitude, signBit] at hnumber
  have hones : @unpackExponent .binary64 x.toBits.toBitVec ≠ -1#11 := fun heq => by
    rw [heq] at hexponent
    change 2047 = _ at hexponent
    omega
  have hpos : 0 < (@unpackExponent .binary64 x.toBits.toBitVec).toNat :=
    Nat.pos_of_ne_zero fun heq => h (BitVec.eq_of_toNat_eq heq)
  have happend : (1#1 ++ @unpackMantissa .binary64 x.toBits.toBitVec).toNat =
      2 ^ 52 + x.toBits.toNat % 2 ^ 52 := by
    rw [BitVec.toNat_append, ← Nat.shiftLeft_add_eq_or_of_lt (BitVec.isLt _), hmantissa]
    rfl
  rw [level_eq_apply, magnitude, signBit]
  change IsCanonical (UnpackedFloat.unpack Format.binary64 x.toBits.toBitVec) ∧
    levelOf (UnpackedFloat.unpack Format.binary64 x.toBits.toBitVec) = _
  rw [UnpackedFloat.unpack]
  simp only
  rw [if_neg hones, if_neg h]
  refine ⟨⟨?_, ?_, fun hlt => ?_⟩, congrArg (Sign.apply _) ?_⟩
  · rw [happend]
    omega
  · change (-1074 : Int) ≤ _ - (1023 + 52)
    omega
  · rw [happend] at hlt
    omega
  · rw [happend]
    change (_ - (1023 + 52) + 1074 : Int) * 2 ^ 52 + _ = _
    rw [hexponent]
    omega

/-- **A finite double** unpacks into a canonical number of its level. -/
theorem unpack_spec {x : Float} (h : isNumber x) :
    IsCanonical x.toModel.unpack ∧ levelOf x.toModel.unpack = level x := by
  by_cases hzero : @unpackExponent .binary64 x.toBits.toBitVec = 0#11
  · exact unpack_spec_of_zero hzero
  · exact unpack_spec_of_ne_zero h hzero

/-! ### Comparing doubles -/

/-- **Finite doubles compare as their levels do.** -/
theorem lt_iff_level_lt {x y : Float} (hx : isNumber x) (hy : isNumber y) :
    x < y ↔ level x < level y := by
  obtain ⟨hcanonical, hlevel⟩ := unpack_spec hx
  obtain ⟨hcanonical', hlevel'⟩ := unpack_spec hy
  have hlt : x < y ↔ x.toModel.unpack.lt y.toModel.unpack = true :=
    decide_eq_true_iff (p := x.toModel < y.toModel)
  rw [hlt, UnpackedFloat.lt, compare_eq hcanonical hcanonical', hlevel, hlevel']
  rw [beq_iff_eq, Option.some_inj, compare_lt_iff_lt]

theorem le_iff_level_le {x y : Float} (hx : isNumber x) (hy : isNumber y) :
    x ≤ y ↔ level x ≤ level y := by
  obtain ⟨hcanonical, hlevel⟩ := unpack_spec hx
  obtain ⟨hcanonical', hlevel'⟩ := unpack_spec hy
  have hle : x ≤ y ↔ x.toModel.unpack.le y.toModel.unpack = true :=
    decide_eq_true_iff (p := x.toModel ≤ y.toModel)
  rw [hle, UnpackedFloat.le, compare_eq hcanonical hcanonical', hlevel, hlevel']
  rw [Option.any_some, Int.isLE_compare]

/-- A finite double is told by its exponent bits. -/
theorem isFinite_eq_isNumber (x : Float) : x.isFinite = isNumber x := by
  by_cases h : isNumber x
  · rw [h]
    obtain ⟨hcanonical, -⟩ := unpack_spec h
    change x.toModel.unpack.isFinite = true
    cases hunpack : x.toModel.unpack with
    | infinity => exact (hunpack ▸ hcanonical).elim
    | notANumber => exact (hunpack ▸ hcanonical).elim
    | zero => rfl
    | finite => rfl
  · have hbits := x.toBits.toNat_lt
    have hexponent := toNat_unpackExponent x
    have hones : @unpackExponent .binary64 x.toBits.toBitVec = -1#11 := by
      refine BitVec.eq_of_toNat_eq ?_
      rw [isNumber, decide_eq_true_iff, magnitude, signBit] at h
      rw [hexponent]
      change _ = 2047
      omega
    rw [Bool.eq_false_iff.2 h]
    change (UnpackedFloat.unpack Format.binary64 x.toBits.toBitVec).isFinite = false
    rw [UnpackedFloat.unpack]
    simp only
    rw [if_pos hones]
    split <;> rfl

/-! ### The two zeros -/

theorem eq_of_toBits_eq {x y : Float} (h : x.toBits = y.toBits) : x = y := by
  obtain ⟨⟨bits, hvalid⟩⟩ := x
  obtain ⟨⟨bits', hvalid'⟩⟩ := y
  obtain rfl : bits = bits' := h
  rfl

/-- A double without magnitude is one of the two zeros. -/
theorem eq_zero_of_magnitude {x : Float} (h : magnitude x = 0) :
    x = if isNegative x then -0.0 else 0.0 := by
  have hbits := x.toBits.toNat_lt
  rw [magnitude, signBit] at h
  cases hx : isNegative x with
  | true =>
    rw [isNegative, signBit, decide_eq_true_iff] at hx
    have hminus : (-0.0 : Float).toBits.toNat = 0x8000000000000000 := by decide +kernel
    exact eq_of_toBits_eq (UInt64.toNat_inj.1 (by rw [if_pos rfl, hminus]; omega))
  | false =>
    rw [isNegative, signBit, decide_eq_false_iff_not] at hx
    have hplus : (0.0 : Float).toBits.toNat = 0 := by decide +kernel
    exact eq_of_toBits_eq (UInt64.toNat_inj.1 (by rw [if_neg Bool.false_ne_true, hplus]; omega))

/-- **The two orders differ at zero only**: doubles of one level have one rank, unless they are
the two zeros. -/
theorem rank_eq_of_level_eq {x y : Float} (h : level x = level y) :
    rank x = rank y ∨ (x = 0.0 ∧ y = -0.0) ∨ (x = -0.0 ∧ y = 0.0) := by
  have hzero := @eq_zero_of_magnitude x
  have hzero' := @eq_zero_of_magnitude y
  rw [level, level] at h
  rw [rank, rank]
  cases hx : isNegative x <;> cases hy : isNegative y <;>
    simp only [hx, hy, if_true, if_false, Bool.false_eq_true] at h hzero hzero' ⊢
  · exact .inl h
  · exact .inr (.inl ⟨hzero (by omega), hzero' (by omega)⟩)
  · exact .inr (.inr ⟨hzero (by omega), hzero' (by omega)⟩)
  · exact .inl (by omega)

end Telemetry.Double
