import Telemetry.Double.Order
import Telemetry.Sampling.Adaptive
import Mathlib

/-!
# Doubles that stay finite

A double becomes infinite only by an operation on large ones. To show that a computation yields
numbers throughout, it is enough to follow the power of two that bounds its intermediate
results, and roughly so: `Double.IsBelow` bounds an unpacked double by a power of two, and each
operation has one lemma that says how much the exponent grows at most.

| operation | the exponent grows by |
|---|---|
| rounding (`isBelow_round`) | one |
| packing into 64 bits (`IsBelow.pack`) | the width of a mantissa |
| dividing by `m · 2 ^ e` (`IsBelow.div`) | `1 - e` |
| adding a number below the same bound (`IsBelow.add`) | two |

Packing keeps a rounded number as it is; that it adds no more than the width of a mantissa is
easier to see, and there is room for that many times over.

The one computation of this kind is that of a priority: `isNumber_priorityOf`.

There are two zeros, and what equals one equals the other: a number that is compared with zero
may be either (`eq_or_eq_of_beq_zero`).
-/

namespace Telemetry.Double

open Float.Model (Format UnpackedFloat totalExponent)
open Float.Model.UnpackedFloat

/-! ### Mantissas -/

theorem mantissa_shiftRight (m : ExtendedMantissa) (k : Nat) :
    (m >>> k).mantissa = m.mantissa / 2 ^ k := by
  induction k with
  | zero => exact (Nat.div_one _).symm
  | succ k ih =>
    change (m >>> k).mantissa / 2 = _
    rw [ih, Nat.div_div_eq_div_mul, Nat.pow_succ]

theorem roundedMantissa_le (m : ExtendedMantissa) : m.roundedMantissa ≤ m.mantissa + 1 := by
  obtain ⟨mantissa, roundBit, stickyBit⟩ := m
  have hparity := Nat.mod_lt mantissa (show 0 < 2 by decide)
  cases roundBit <;> cases stickyBit <;>
    simp only [ExtendedMantissa.roundedMantissa, ExtendedMantissa.accuracy,
      Accuracy.roundToNearestEven] <;> omega

theorem mantissa_ofMantissaAndAccuracy (m : Nat) (accuracy : Accuracy) :
    (ExtendedMantissa.ofMantissaAndAccuracy m accuracy).mantissa = m := by
  cases accuracy with
  | exact => rfl
  | inexact side => cases side <;> rfl

theorem log2_le_of_lt {m k : Nat} (h : m < 2 ^ (k + 1)) : m.log2 ≤ k := by
  rcases Nat.eq_zero_or_pos m with rfl | hpos
  · exact Nat.zero_le k
  · exact Nat.le_of_lt_succ ((Nat.log2_lt (Nat.ne_of_gt hpos)).2 h)

theorem log2_mono {m m' : Nat} (h : m ≤ m') : m.log2 ≤ m'.log2 :=
  log2_le_of_lt (Nat.lt_of_le_of_lt h Nat.lt_log2_self)

theorem log2_add_le {m m' k : Nat} (h : m.log2 ≤ k) (h' : m'.log2 ≤ k) :
    (m + m').log2 ≤ k + 1 := by
  have hlt : ∀ {n : Nat}, n.log2 ≤ k → n < 2 ^ (k + 1) := fun hn =>
    Nat.lt_of_lt_of_le Nat.lt_log2_self (Nat.pow_le_pow_right (by decide) (Nat.succ_le_succ hn))
  refine log2_le_of_lt ?_
  rw [Nat.pow_succ]
  have := hlt h
  have := hlt h'
  omega

theorem log2_shiftLeft_le (m k : Nat) : (m <<< k).log2 ≤ m.log2 + k := by
  refine log2_le_of_lt ?_
  rw [Nat.shiftLeft_eq, Nat.add_right_comm, Nat.pow_add]
  exact Nat.mul_lt_mul_of_pos_right Nat.lt_log2_self (Nat.two_pow_pos k)

theorem log2_div_add_le {m k : Nat} (h : m / 2 ^ k ≠ 0) : (m / 2 ^ k).log2 + k ≤ m.log2 := by
  have hm : m ≠ 0 := fun hzero => h (by rw [hzero, Nat.zero_div])
  rw [Nat.le_log2 hm, Nat.pow_add]
  exact (Nat.le_div_iff_mul_le (Nat.two_pow_pos k)).1 (Nat.log2_self_le h)

/-! ### Rounding and packing -/

/-- An unpacked double that is a number, and smaller than `2 ^ bound`. -/
def IsBelow (bound : Int) : UnpackedFloat → Prop
  | .zero _ => True
  | .finite _ mantissa exponent _ => totalExponent mantissa exponent ≤ bound
  | _ => False

/-- A shift to the exponent of the format drops bits at the end, and raises the exponent
accordingly. -/
theorem shiftToTargetExponent_spec (m : Nat) (e : Int) (accuracy : Accuracy) :
    ∃ k : Nat, (shiftToTargetExponent Format.binary64 m e accuracy).1.mantissa = m / 2 ^ k ∧
      (shiftToTargetExponent Format.binary64 m e accuracy).2 = e + k ∧
      e + k ≤ max e (max (totalExponent m e - 53) (-1074)) := by
  refine ⟨(Format.binary64.targetExponent (totalExponent m e) - e).toNat, ?_, rfl, ?_⟩
  · exact (mantissa_shiftRight _ _).trans (by rw [mantissa_ofMantissaAndAccuracy])
  · have htarget : Format.binary64.targetExponent (totalExponent m e) =
        max (totalExponent m e - 53) (-1074) := rfl
    rw [htarget]
    omega

instance (bound : Int) (x : UnpackedFloat) : Decidable (IsBelow bound x) :=
  match x with
  | .zero _ => .isTrue trivial
  | .finite .. => inferInstanceAs (Decidable (totalExponent _ _ ≤ bound))
  | .infinity _ => .isFalse id
  | .notANumber => .isFalse id

/-- The exponent of a number that is not zero. -/
def exponent? : UnpackedFloat → Option Int
  | .finite _ _ exponent _ => some exponent
  | _ => none

/-- **Rounding** moves at most one place up. -/
theorem isBelow_round {bound : Int} (hbound : 0 ≤ bound) (sign : Sign) (m : Nat) (e : Int)
    (accuracy : Accuracy) (h : totalExponent m e ≤ bound) :
    IsBelow (bound + 1) (roundWithAccuracy Format.binary64 sign m e accuracy) := by
  obtain ⟨k, hmantissa, hexponent, hle⟩ := shiftToTargetExponent_spec m e accuracy
  rw [roundWithAccuracy]
  generalize shiftToTargetExponent Format.binary64 m e accuracy = shifted
    at hmantissa hexponent ⊢
  obtain ⟨first, e'⟩ := shifted
  simp only at hmantissa hexponent ⊢
  subst hexponent
  -- the rounded mantissa is at most one more than what the shift has left of the mantissa
  have hrounded : totalExponent first.roundedMantissa (e + k) ≤ bound + 1 := by
    have hone := roundedMantissa_le first
    rw [hmantissa] at hone
    have hlog := log2_mono hone
    unfold totalExponent at h hle ⊢
    by_cases hzero : m / 2 ^ k = 0
    · have hnone : (m / 2 ^ k + 1).log2 = 0 := by rw [hzero]; rfl
      omega
    · have hkept := log2_div_add_le hzero
      have hsucc := log2_add_le (Nat.le_refl (m / 2 ^ k).log2)
        (show Nat.log2 1 ≤ (m / 2 ^ k).log2 from Nat.zero_le _)
      omega
  obtain ⟨k', hmantissa', hexponent', -⟩ :=
    shiftToTargetExponent_spec first.roundedMantissa (e + k) .exact
  generalize shiftToTargetExponent Format.binary64 first.roundedMantissa (e + k) .exact = shifted
    at hmantissa' hexponent' ⊢
  obtain ⟨last, e''⟩ := shifted
  simp only at hmantissa' hexponent' ⊢
  split
  · trivial
  next hne =>
    have hkept := log2_div_add_le (hmantissa' ▸ hne)
    rw [← hmantissa'] at hkept
    change totalExponent last.mantissa e'' ≤ bound + 1
    unfold totalExponent at hrounded ⊢
    omega

theorem isBelow_normalize {bound : Int} (hbound : 0 ≤ bound) (m e : Int) (sign : Sign)
    (h : totalExponent m.natAbs e ≤ bound) :
    IsBelow (bound + 1) (UnpackedFloat.normalize Format.binary64 m e sign) := by
  have hround : ∀ sign', IsBelow (bound + 1)
      (UnpackedFloat.round Format.binary64 sign' m.natAbs e) := fun sign' => by
    refine isBelow_round hbound sign' _ _ _ ?_
    have hlog := log2_shiftLeft_le m.natAbs
      (e - Format.binary64.targetExponent (totalExponent m.natAbs e)).toNat
    change totalExponent (m.natAbs <<< _) (e - _) ≤ bound
    unfold totalExponent at h hlog ⊢
    omega
  unfold UnpackedFloat.normalize
  split
  next hneg =>
    have hlt := compare_lt_iff_lt.1 hneg
    rw [show (-m).toNat = m.natAbs by omega]
    exact hround _
  next => trivial
  next hpos =>
    have hgt := compare_gt_iff_gt.1 hpos
    rw [show m.toNat = m.natAbs by omega]
    exact hround _

/-- What is packed with an exponent field that is not all ones is a number again, whose
mantissa has at most 53 bits. -/
theorem isBelow_unpack_packComponents {bound : Int} (sign : Sign) {field : BitVec 11}
    (mantissa : BitVec 52) (hfield : field.toNat < 2047) (hle : (field.toNat : Int) ≤ bound + 1022)
    (hbound : -1022 ≤ bound) :
    IsBelow bound (UnpackedFloat.unpack Format.binary64
      (packComponents Format.binary64 sign field mantissa)) := by
  have hne : field ≠ -1#11 := fun heq => by
    rw [heq] at hfield
    exact absurd hfield (by decide)
  rw [UnpackedFloat.unpack]
  simp only [unpackExponent_packComponents, unpackMantissa_packComponents]
  rw [if_neg hne]
  split
  · split
    · trivial
    next hzero _ =>
      have hlog : mantissa.toNat.log2 ≤ 51 := log2_le_of_lt mantissa.isLt
      change totalExponent mantissa.toNat (field.toNat - (1023 + 52) + 1) ≤ bound
      rw [hzero]
      change (mantissa.toNat.log2 : Int) + 1 + (0 - (1023 + 52) + 1) ≤ bound
      omega
  · have hlog : (1#1 ++ mantissa).toNat.log2 ≤ 52 := log2_le_of_lt (1#1 ++ mantissa).isLt
    change ((1#1 ++ mantissa).toNat.log2 : Int) + 1 + (field.toNat - (1023 + 52)) ≤ bound
    omega

/-- **Packing** keeps numbers that are not too large. -/
theorem IsBelow.pack {bound : Int} {x : UnpackedFloat} (h : IsBelow bound x) (hbound : 0 ≤ bound)
    (hroom : bound ≤ 900) : IsBelow (bound + 53) (Float.Model.pack x).unpack := by
  change IsBelow _ (UnpackedFloat.unpack Format.binary64 (UnpackedFloat.pack Format.binary64 x))
  cases x with
  | infinity => exact h.elim
  | notANumber => exact h.elim
  | zero sign =>
    exact isBelow_unpack_packComponents sign 0 (by decide) (by change ((0 : Nat) : Int) ≤ _; omega)
      (by omega)
  | finite sign m e hm =>
    have hexponent : e ≤ bound - 1 := by
      change (m.log2 : Int) + 1 + e ≤ bound at h
      omega
    have hbiased : (e + 1023 + 52).toNat < 2047 := by omega
    have hfield : (BitVec.ofNat 11 (e + 1023 + 52).toNat).toNat = (e + 1023 + 52).toNat := by
      rw [BitVec.toNat_ofNat]
      exact Nat.mod_eq_of_lt (by omega)
    rw [UnpackedFloat.pack]
    change IsBelow _ (UnpackedFloat.unpack _ (if 2 ^ 11 ≤ (e + 1023 + 52).toNat + 1 then _ else _))
    rw [if_neg (by omega)]
    split
    · exact isBelow_unpack_packComponents sign _ (hfield.trans_lt hbiased)
        ((congrArg Nat.cast hfield).trans_le (by omega)) (by omega)
    · exact isBelow_unpack_packComponents sign _ (by decide)
        (by change ((0 : Nat) : Int) ≤ _; omega) (by omega)

/-- A double that is below a power of two is a number. -/
theorem isNumber_of_isBelow {bound : Int} {x : Float} (h : IsBelow bound x.toModel.unpack) :
    isNumber x := by
  have hfield : @unpackExponent .binary64 x.toBits.toBitVec ≠ -1#11 := by
    intro heq
    change IsBelow bound (UnpackedFloat.unpack Format.binary64 x.toBits.toBitVec) at h
    rw [UnpackedFloat.unpack] at h
    simp only [heq, if_true] at h
    split at h <;> exact h
  have hbits : x.toBits.toNat / 2 ^ 52 % 2 ^ 11 ≠ 2047 := fun heq => by
    refine hfield (BitVec.eq_of_toNat_eq ?_)
    rw [unpackExponent, BitVec.toNat_cast, BitVec.extractLsb_toNat, Nat.shiftRight_eq_div_pow]
    exact heq
  change decide (x.toBits.toNat % signBit < 0x7FF0000000000000) = true
  rw [decide_eq_true_iff, signBit]
  omega

/-! ### Operations -/

section Operations

variable {bound : Int} {x y : UnpackedFloat}

/-- **Dividing** by a number of exponent `e`. -/
theorem IsBelow.div (h : IsBelow bound x) (hbound : 0 ≤ bound) {e : Int}
    (hy : exponent? y = some e) (he : e ≤ 0) :
    IsBelow (bound - e + 1) (UnpackedFloat.div Format.binary64 x y) := by
  cases y with
  | infinity => cases hy
  | notANumber => cases hy
  | zero => cases hy
  | finite sign m e hm =>
    obtain rfl := Option.some.inj hy
    cases x with
    | infinity => exact h.elim
    | notANumber => exact h.elim
    | zero => trivial
    | finite sign' m' e' hm' =>
      refine isBelow_round (by omega) _ _ _ _ ?_
      change (m'.log2 : Int) + 1 + e' ≤ bound at h
      generalize hshift : (e' - e - min (e' - e) (Format.binary64.targetExponent
        (totalExponent m' e' - totalExponent m e))).toNat = shift
      have hquotient : (m' <<< shift / m).log2 ≤ m'.log2 + shift :=
        le_trans (log2_mono (Nat.div_le_self _ _)) (log2_shiftLeft_le m' shift)
      change ((m' <<< _ / m).log2 : Int) + 1 + min _ _ ≤ _
      omega

theorem natAbs_apply (sign : Sign) (m : Nat) : (sign.apply (m : Int)).natAbs = m := by
  cases sign
  · exact Int.natAbs_neg _
  · rfl

/-- **Adding** two numbers. -/
theorem IsBelow.add (hx : IsBelow bound x) (hy : IsBelow bound y) (hbound : 0 ≤ bound) :
    IsBelow (bound + 2) (UnpackedFloat.add Format.binary64 x y) := by
  have hmono : ∀ {z : UnpackedFloat}, IsBelow bound z → IsBelow (bound + 2) z := fun {z} hz => by
    cases z with
    | finite => exact le_trans hz (by omega)
    | _ => exact hz
  cases x with
  | infinity => exact hx.elim
  | notANumber => exact hx.elim
  | zero sign =>
    cases y with
    | infinity => exact hy.elim
    | notANumber => exact hy.elim
    | zero sign' =>
      change IsBelow _ (if sign == sign' then _ else _)
      split <;> trivial
    | finite => exact hmono hy
  | finite sign m e hm =>
    cases y with
    | infinity => exact hy.elim
    | notANumber => exact hy.elim
    | zero => exact hmono hx
    | finite sign' m' e' hm' =>
      change (m.log2 : Int) + 1 + e ≤ bound at hx
      change (m'.log2 : Int) + 1 + e' ≤ bound at hy
      -- both mantissas are shifted to the smaller exponent
      generalize hk : (e - min e e').toNat = k
      generalize hk' : (e' - min e e').toNat = k'
      have hlog : (m <<< k + m' <<< k').log2 ≤ max (m.log2 + k) (m'.log2 + k') + 1 :=
        log2_add_le (le_trans (log2_shiftLeft_le m k) (le_max_left _ _))
          (le_trans (log2_shiftLeft_le m' k') (le_max_right _ _))
      have hsum : (sign.apply ((m <<< k : Nat) : Int) +
          sign'.apply ((m' <<< k' : Nat) : Int)).natAbs ≤ m <<< k + m' <<< k' :=
        le_trans (Int.natAbs_add_le _ _) (by rw [natAbs_apply, natAbs_apply])
      have hsize := log2_mono hsum
      have hnormalize : IsBelow (bound + 1 + 1) (UnpackedFloat.normalize Format.binary64
          (sign.apply ((m <<< k : Nat) : Int) + sign'.apply ((m' <<< k' : Nat) : Int))
          (min e e') .positive) := by
        refine isBelow_normalize (by omega) _ _ _ ?_
        unfold totalExponent
        omega
      rw [Int.add_assoc] at hnormalize
      subst hk hk'
      exact hnormalize

end Operations

/-! ### Priorities -/

theorem isBelow_toFloat (n : UInt64) : IsBelow 118 n.toFloat.toModel.unpack := by
  refine @IsBelow.pack 65 _ ?_ (by decide) (by decide)
  refine @isBelow_normalize 64 (by decide) _ _ _ ?_
  have hlog : n.toNat.log2 ≤ 63 := log2_le_of_lt n.toNat_lt
  change (n.toNat.log2 : Int) + 1 + 0 ≤ 64
  omega

open Sampling in
/-- **A priority is a number**, whatever the random number it is made from. -/
theorem isNumber_priorityOf (sampled : Bool) (random : Float) :
    isNumber (priorityOf sampled random) := by
  have hsteps : exponent? prioritySteps.toModel.unpack = some (-33) := by decide +kernel
  have hbase : IsBelow 205 (wholePart (random * prioritySteps) / prioritySteps).toModel.unpack :=
    ((isBelow_toFloat _).div (by decide) hsteps (by decide)).pack (by decide) (by decide)
  cases sampled with
  | false => exact isNumber_of_isBelow hbase
  | true =>
    have hone : IsBelow 205 (1.0 : Float).toModel.unpack := by decide +kernel
    exact isNumber_of_isBelow ((hbase.add hone (by decide)).pack (by decide) (by decide))

/-! ### The two zeros -/

/-- What equals zero is one of the two zeros. -/
theorem eq_or_eq_of_beq_zero {x : Float} (h : x == 0.0) : x = 0.0 ∨ x = -0.0 := by
  have hzero : (0.0 : Float) = 0 := by decide +kernel
  have hsigned : (0.0 : Float) ≠ -0 := by decide +kernel
  rcases (Float.beq_iff_ne_nan_and_eq.1 h).2.2 with hsame | ⟨_, hother⟩ | ⟨hnegative, _⟩
  · exact .inl hsame
  · exact absurd hother hsigned
  · rw [← hzero] at hnegative
    exact .inr hnegative

theorem clampToUnit_of_beq_zero {x : Float} (h : x == 0.0) : clampToUnit x = x := by
  rcases eq_or_eq_of_beq_zero h with rfl | rfl <;> decide +kernel

end Telemetry.Double
