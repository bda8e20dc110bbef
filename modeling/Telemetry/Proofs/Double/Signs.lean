import Telemetry.Proofs.Double.Arithmetic

/-!
# What is not below zero

A comparison does not tell much where a NaN may come in. These rules take that into account: they
say what is *not* below something else, be it a number or not.

| | |
|---|---|
| a product of factors that are not below zero | is not below zero (`not_isBelowZero_mul`) |
| a double less itself | is no more than zero (`isVoid_sub_self`) |
| a NaN less any double | is no more than zero (`isVoid_sub_of_isNaN`) |
| what is not below zero | is not below what is no more than zero (`not_lt_of_isVoid`) |
-/

namespace Telemetry.Double

open Float.Model (Format UnpackedFloat)
open Float.Model.UnpackedFloat

/-- A negative number or negative infinity. A NaN is not below zero. -/
def IsBelowZero : UnpackedFloat → Prop
  | .finite .negative .. => True
  | .infinity .negative => True
  | _ => False

/-- A zero or a NaN: nothing that is not below zero is below it. -/
def IsVoid : UnpackedFloat → Prop
  | .zero _ => True
  | .notANumber => True
  | _ => False

variable {u v : UnpackedFloat} {x y : Float}

/-- What is left if negative numbers are left out. -/
theorem cases_of_not_isBelowZero (h : ¬ IsBelowZero u) :
    u = .notANumber ∨ (∃ sign, u = .zero sign) ∨ u = .infinity .positive ∨
      ∃ m e hm, u = .finite .positive m e hm := by
  cases u with
  | notANumber => exact .inl rfl
  | zero sign => exact .inr (.inl ⟨sign, rfl⟩)
  | infinity sign =>
    cases sign with
    | negative => exact absurd trivial h
    | positive => exact .inr (.inr (.inl rfl))
  | finite sign m e hm =>
    cases sign with
    | negative => exact absurd trivial h
    | positive => exact .inr (.inr (.inr ⟨m, e, hm, rfl⟩))

theorem cases_of_isVoid (h : IsVoid u) : u = .notANumber ∨ ∃ sign, u = .zero sign := by
  cases u with
  | infinity => exact h.elim
  | finite => exact h.elim
  | notANumber => exact .inl rfl
  | zero sign => exact .inr ⟨sign, rfl⟩

/-- **What is not below zero** is below neither zero nor a NaN. -/
theorem not_lt_of_isVoid (hx : ¬ IsBelowZero x.toModel.unpack) (hy : IsVoid y.toModel.unpack) :
    ¬ x < y := by
  have hcompare : x.toModel.unpack.compare y.toModel.unpack ≠ some .lt := by
    rcases cases_of_not_isBelowZero hx with hu | ⟨sign, hu⟩ | hu | ⟨m, e, hm, hu⟩ <;>
      rcases cases_of_isVoid hy with hv | ⟨sign', hv⟩ <;> rw [hu, hv] <;> nofun
  intro hlt
  have hlt' : x.toModel.unpack.lt y.toModel.unpack = true :=
    (decide_eq_true_iff (p := x.toModel < y.toModel)).1 hlt
  exact hcompare (beq_iff_eq.1 hlt')

/-- What is at least zero is not below zero. -/
theorem not_isBelowZero_of_le (h : 0.0 ≤ x) : ¬ IsBelowZero x.toModel.unpack := by
  have hle : (0.0 : Float).toModel.unpack.le x.toModel.unpack = true :=
    (decide_eq_true_iff (p := (0.0 : Float).toModel ≤ x.toModel)).1 h
  have hzero : (0.0 : Float).toModel.unpack = .zero .positive := rfl
  rw [hzero] at hle
  intro hneg
  cases hx : x.toModel.unpack with
  | notANumber => rw [hx] at hneg; exact hneg
  | zero => rw [hx] at hneg; exact hneg
  | infinity sign =>
    cases sign with
    | negative => rw [hx] at hle; exact Bool.false_ne_true hle
    | positive => rw [hx] at hneg; exact hneg
  | finite sign =>
    cases sign with
    | negative => rw [hx] at hle; exact Bool.false_ne_true hle
    | positive => rw [hx] at hneg; exact hneg

/-! ### Packing -/

/-- What is packed with a positive sign is not below zero. -/
theorem not_isBelowZero_packComponents (exponent : BitVec 11) (mantissa : BitVec 52) :
    ¬ IsBelowZero (UnpackedFloat.unpack Format.binary64
      (packComponents Format.binary64 .positive exponent mantissa)) := by
  rw [UnpackedFloat.unpack]
  simp only [unpackSign_packComponents, ofBitVec_toBitVec]
  split
  · split <;> exact id
  · split
    · split <;> exact id
    · exact id

theorem isVoid_pack (h : IsVoid u) : IsVoid (Float.Model.pack u).unpack := by
  rcases cases_of_isVoid h with rfl | ⟨sign, rfl⟩
  · exact trivial
  · cases sign <;> exact trivial

/-- **Packing** makes nothing negative. -/
theorem not_isBelowZero_pack (h : ¬ IsBelowZero u) :
    ¬ IsBelowZero (Float.Model.pack u).unpack := by
  rcases cases_of_not_isBelowZero h with rfl | ⟨sign, rfl⟩ | rfl | ⟨m, e, hm, rfl⟩
  · exact not_isBelowZero_packComponents _ _
  · cases sign <;> exact id
  · exact not_isBelowZero_packComponents _ _
  · change ¬ IsBelowZero (UnpackedFloat.unpack _ (UnpackedFloat.pack _ _))
    rw [UnpackedFloat.pack]
    simp only
    split
    · exact not_isBelowZero_packComponents _ _
    · split <;> exact not_isBelowZero_packComponents _ _

/-! ### Operations -/

theorem not_isBelowZero_round (m : ℕ) (e : ℤ) (accuracy : Accuracy) :
    ¬ IsBelowZero (roundWithAccuracy Format.binary64 .positive m e accuracy) := by
  rw [roundWithAccuracy]
  simp only
  split <;> exact id

/-- **A product** of factors that are not below zero. -/
theorem not_isBelowZero_mul (hx : ¬ IsBelowZero x.toModel.unpack)
    (hy : ¬ IsBelowZero y.toModel.unpack) : ¬ IsBelowZero (x * y).toModel.unpack := by
  refine not_isBelowZero_pack (u := UnpackedFloat.mul Format.binary64 x.toModel.unpack
    y.toModel.unpack) ?_
  rcases cases_of_not_isBelowZero hx with hu | ⟨sign, hu⟩ | hu | ⟨m, e, hm, hu⟩ <;>
    rcases cases_of_not_isBelowZero hy with hv | ⟨sign', hv⟩ | hv | ⟨m', e', hm', hv⟩ <;>
    rw [hu, hv] <;> first | exact id | exact not_isBelowZero_round _ _ _

/-- A count is not below zero. -/
theorem not_isBelowZero_toFloat (n : UInt64) : ¬ IsBelowZero n.toFloat.toModel.unpack := by
  refine not_isBelowZero_pack (u := UnpackedFloat.normalize Format.binary64 (n.toNat : ℤ) 0
    .positive) ?_
  by_cases hn : n.toNat = 0
  · rw [hn]
    exact id
  · rw [normalize_of_ne_zero hn]
    exact not_isBelowZero_round _ _ _

/-- **A double less itself** is zero, if it is a number, or else a NaN. -/
theorem isVoid_sub_self (x : Float) : IsVoid (x - x).toModel.unpack := by
  refine isVoid_pack (u := UnpackedFloat.sub Format.binary64 x.toModel.unpack x.toModel.unpack) ?_
  cases x.toModel.unpack with
  | notANumber => exact trivial
  | infinity sign => cases sign <;> exact trivial
  | zero sign => cases sign <;> exact trivial
  | finite sign m e hm =>
    rw [UnpackedFloat.sub]
    simp only [Int.sub_self]
    exact trivial

/-- **A NaN** absorbs what is taken off it. -/
theorem isVoid_sub_of_isNaN (hx : x.isNaN) (y : Float) : IsVoid (x - y).toModel.unpack := by
  refine isVoid_pack (u := UnpackedFloat.sub Format.binary64 x.toModel.unpack y.toModel.unpack) ?_
  have hnan : x.toModel.unpack.isNaN = true := hx
  cases hu : x.toModel.unpack with
  | notANumber => exact trivial
  | _ => rw [hu] at hnan; exact absurd hnan Bool.false_ne_true

end Telemetry.Double
