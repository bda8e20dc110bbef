import Telemetry.Proofs.Double.Arithmetic
import Telemetry.Sampling.Adaptive

/-!
# Sampled events outrank the others

A priority is a random number below one, cut to six decimal places, and one more if the event is
sampled. So the priorities of sampled events start where those of the others end, at one. It takes
more than that to say so of doubles: each operation on the way rounds, and a product or a quotient
might be rounded up to the next whole number.

It is not, as rounding is monotone. What becomes of the largest random number bounds what becomes
of the others:

| | of the largest | is below |
|---|---|---|
| a draw of 53 bits | `(2 ^ 53 - 1) / 2 ^ 53` | one (`isFraction_unit`) |
| a million times a random number | `999999.9999999999` | a million (`toNat_scaled_le`) |
| a millionth of its whole part | `0.999999` | one (`cut_cases`) |

Hence `isGraded_priorityOf`: the priority of a sampled event is at least one, and that of any other
event is below one.
-/

namespace Telemetry.Sampling

open Double (IsModest isNumber level)

/-! ### Random numbers -/

theorem isModest_one : IsModest 1.0 := ⟨by decide +kernel, by decide +kernel, by decide +kernel⟩

/-- A number of `[0, 1)`. -/
structure IsFraction (x : Float) : Prop where
  number : isNumber x
  nonneg : 0 ≤ level x
  lt : level x < level 1.0

/-- A positive count as a double. -/
theorem isModest_toFloat {k n : UInt64} (hk : k.toNat ≠ 0) (h : k.toNat ≤ n.toNat)
    (hn : IsModest n.toFloat) : IsModest k.toFloat ∧ level 1.0 ≤ level k.toFloat := by
  have hone : level (1 : UInt64).toFloat = level 1.0 := by decide +kernel
  have hlow : level 1.0 ≤ level k.toFloat :=
    hone ▸ Double.level_toFloat_mono (j := 1) (by decide) (Nat.one_le_iff_ne_zero.2 hk)
  exact ⟨hn.of_le (Double.level_toFloat hk).1 (isModest_one.pos.trans_le hlow)
    (Double.level_toFloat_mono hk h), hlow⟩

/-- **A draw of 53 bits** is a number of `[0, 1)`. -/
theorem isFraction_unit (source : Random.Source) : IsFraction source.unit.1 := by
  change IsFraction ((source.next64.1 >>> 11).toFloat * (1.0 / 9007199254740992.0))
  have hbits : (source.next64.1 >>> 11).toNat ≤ (9007199254740991 : UInt64).toNat := by
    have hlt := source.next64.1.toNat_lt
    rw [UInt64.toNat_shiftRight, Nat.shiftRight_eq_div_pow]
    change source.next64.1.toNat / 2 ^ 11 ≤ 9007199254740991
    omega
  generalize source.next64.1 >>> 11 = k at hbits
  have hmost : IsModest (9007199254740991 : UInt64).toFloat :=
    ⟨by decide +kernel, by decide +kernel, by decide +kernel⟩
  have hstep : IsModest (1.0 / 9007199254740992.0) :=
    ⟨by decide +kernel, by decide +kernel, by decide +kernel⟩
  have hlast : level ((9007199254740991 : UInt64).toFloat * (1.0 / 9007199254740992.0)) <
    level 1.0 := by decide +kernel
  by_cases hk : k.toNat = 0
  · obtain rfl : k = 0 := UInt64.toNat_inj.1 hk
    exact ⟨by decide +kernel, by decide +kernel, by decide +kernel⟩
  · obtain ⟨hmodest, -⟩ := isModest_toFloat hk hbits hmost
    obtain ⟨hnumber, hnonneg, hle⟩ := Double.level_mul_mono hmodest.number hmodest.pos hmost hstep
      (Double.level_toFloat_mono hk hbits)
    exact ⟨hnumber, hnonneg, hle.trans_lt hlast⟩

/-! ### Priorities -/

variable {random : Float}

theorem value_prioritySteps : Double.value prioritySteps = 1000000 := by
  rw [Double.value_of_level (m := 8589934592000000) (e := -33) (by decide +kernel) (by decide)
    (by decide) (by decide) (by decide +kernel)]
  norm_num

theorem isModest_prioritySteps : IsModest prioritySteps :=
  ⟨by decide +kernel, by decide +kernel, by decide +kernel⟩

/-- **The whole part of a million times a random number** is below a million. -/
theorem toNat_scaled_le (h : IsFraction random) :
    (random * prioritySteps).toUInt64.toNat ≤ 999999 := by
  rcases h.nonneg.eq_or_lt with hzero | hpos
  · rcases Double.eq_zero_of_level hzero.symm with rfl | rfl <;> decide +kernel
  -- the largest double below one
  have hlast : level 0.9999999999999999 + 1 = level 1.0 := by decide +kernel
  have hmost : IsModest 0.9999999999999999 :=
    ⟨by decide +kernel, by decide +kernel, by decide +kernel⟩
  have hscaled : level (0.9999999999999999 * prioritySteps) < level prioritySteps := by
    decide +kernel
  have hlt := h.lt
  obtain ⟨hnumber, hnonneg, hle⟩ := Double.level_mul_mono h.number hpos hmost
    isModest_prioritySteps (by omega)
  rcases hnonneg.eq_or_lt with hzero | hpos'
  · rcases Double.eq_zero_of_level hzero.symm with heq | heq <;> rw [heq] <;> decide +kernel
  · have hvalue := Double.value_lt_value hnumber isModest_prioritySteps.number hpos'
      (hle.trans_lt hscaled)
    rw [value_prioritySteps] at hvalue
    exact Double.toUInt64_le hnumber hpos' (by push_cast; linarith)

/-- **A random number cut to six decimal places** is zero, or a positive number below one. -/
theorem cut_cases (h : IsFraction random) :
    wholePart (random * prioritySteps) / prioritySteps = 0.0 ∨
      IsModest (wholePart (random * prioritySteps) / prioritySteps) ∧
        level (wholePart (random * prioritySteps) / prioritySteps) < level 1.0 := by
  have hle := toNat_scaled_le h
  rw [wholePart]
  generalize (random * prioritySteps).toUInt64 = k at hle
  have hmost : IsModest (999999 : UInt64).toFloat :=
    ⟨by decide +kernel, by decide +kernel, by decide +kernel⟩
  have hsteps : 523 * 2 ^ 52 ≤ level prioritySteps := by decide +kernel
  have hone : 523 * 2 ^ 52 ≤ level 1.0 := by decide +kernel
  have hleast : 0 < level (1.0 / prioritySteps) := by decide +kernel
  have hlast : level ((999999 : UInt64).toFloat / prioritySteps) < level 1.0 := by decide +kernel
  by_cases hk : k.toNat = 0
  · obtain rfl : k = 0 := UInt64.toNat_inj.1 hk
    exact .inl (by decide +kernel)
  · obtain ⟨hcount, hlow⟩ := isModest_toFloat (n := 999999) hk hle hmost
    obtain ⟨-, -, hfrom⟩ := Double.level_div_mono isModest_one.number hone hcount
      isModest_prioritySteps hsteps hlow
    obtain ⟨hnumber, -, hto⟩ := Double.level_div_mono hcount.number (hone.trans hlow) hmost
      isModest_prioritySteps hsteps (Double.level_toFloat_mono hk hle)
    have hlt := hto.trans_lt hlast
    exact .inr ⟨isModest_one.of_le hnumber (hleast.trans_le hfrom) hlt.le, hlt⟩

/-- **Where a priority stands**: at least at one if the event is sampled, and below one if not. -/
structure IsGraded (sampled : Bool) (priority : Float) : Prop where
  number : isNumber priority
  /-- In particular, it is not the negative zero. -/
  nonneg : 0 ≤ Double.rank priority
  grade : sampled = true ↔ level 1.0 ≤ level priority

/-- **Priorities are graded.** -/
theorem isGraded_priorityOf (sampled : Bool) (h : IsFraction random) :
    IsGraded sampled (priorityOf sampled random) := by
  have hnumber := Double.isNumber_priorityOf sampled random
  have hcut := cut_cases h
  rw [priorityOf] at hnumber ⊢
  generalize wholePart (random * prioritySteps) / prioritySteps = base at hcut hnumber ⊢
  rcases hcut with rfl | ⟨hbase, hlt⟩
  · cases sampled <;> exact ⟨by decide +kernel, by decide +kernel, by decide +kernel⟩
  · cases sampled with
    | false =>
      exact ⟨hbase.number, Double.rank_nonneg_of_level_pos hbase.pos,
        iff_of_false Bool.false_ne_true (not_le.2 hlt)⟩
    | true =>
      have hsum := Double.le_level_add hbase isModest_one
      exact ⟨hnumber, Double.rank_nonneg_of_level_pos (isModest_one.pos.trans_le hsum),
        iff_of_true rfl hsum⟩

end Telemetry.Sampling
