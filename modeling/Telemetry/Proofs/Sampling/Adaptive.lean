import Telemetry.Proofs.Double.Signs
import Telemetry.Proofs.Sampling.Fleet
import Telemetry.Simulation.Event

/-!
# Adaptive sampling is bounded

A cycle whose reservoir knows of no decisions before samples the first `target` events. Any other
cycle samples at most twice the target, whatever the random numbers. Once that many are sampled,
the threshold of the back-off is spent: its exponent `target / sampled` is a half then, and

`target ^ (target / sampled) - target ^ 0.5`

is the difference of a double and itself, be that a number or not (`isSampledBy_eq_false`). With a
target of zero the exponent is a NaN, and so has to be the power, as is required of the power
function; nothing else is.

The bound holds of any reservoir among others, with any calls on it between its decisions
(`Fleet.isRationed_of_fresh`). The decisions are counted since it was made or cleared. All of it is
said of any power function; with that of the platform, the reservoirs are those of `Fleet.run`
(`Fleet.runBy_pow`).
-/

namespace Telemetry.Sampling

open Double (IsBelowZero IsVoid)

/-! ### The threshold -/

theorem not_isBelowZero_countAsFloat (n : ℕ) : ¬ IsBelowZero (countAsFloat n).toModel.unpack :=
  Double.not_isBelowZero_toFloat n.toUInt64

theorem value_half : Double.value 0.5 = 1 / 2 := by
  rw [Double.value_of_level (m := 2 ^ 52) (e := -53) (by decide +kernel) (by decide) (by decide)
    (by decide) (by decide +kernel)]
  norm_num

/-- **Twice a count** is twice the double, also where both are rounded. -/
theorem value_countAsFloat_two_mul {t : ℕ} (ht : 0 < t) (hfits : 2 * t < 2 ^ 64) :
    (Double.isNumber (countAsFloat t) ∧ 0 < Double.level (countAsFloat t)) ∧
      (Double.isNumber (countAsFloat (2 * t)) ∧ 0 < Double.level (countAsFloat (2 * t))) ∧
      Double.value (countAsFloat (2 * t)) = 2 * Double.value (countAsFloat t) := by
  have hone : t.toUInt64.toNat = t := Nat.mod_eq_of_lt (by omega)
  have htwo : (2 * t).toUInt64.toNat = 2 * t := Nat.mod_eq_of_lt hfits
  have hpos : (0 : ℚ) < t := by exact_mod_cast ht
  obtain ⟨hnumber, hlevel⟩ := Double.level_toFloat (n := t.toUInt64) (by omega)
  obtain ⟨hnumber', hlevel'⟩ := Double.level_toFloat (n := (2 * t).toUInt64) (by omega)
  rw [← countAsFloat] at hnumber hlevel hnumber' hlevel'
  rw [hone] at hlevel
  rw [htwo, Nat.cast_mul, Nat.cast_ofNat] at hlevel'
  have hlog : 0 ≤ Int.log 2 (t : ℚ) := by
    rw [Int.log_natCast]
    exact Int.natCast_nonneg _
  have hdouble : Double.rounded (2 * t) = Double.rounded t + 2 ^ 52 :=
    Double.rounded_two_mul hpos (by omega)
  have hlow : 2 ^ 52 ≤ Double.level (countAsFloat t) := by
    have hplace : Double.place (t : ℚ) = Int.log 2 (t : ℚ) - 52 := max_eq_left (by omega)
    have hfull := Double.le_nearest_div_place hpos (by omega)
    rw [hlevel, Double.rounded]
    omega
  exact ⟨⟨hnumber, by omega⟩, ⟨hnumber', by omega⟩,
    Double.value_eq_two_mul hnumber hlow hnumber' (by omega)⟩

/-- **A count is half of twice the count.** -/
theorem countAsFloat_div_two_mul {t : ℕ} (ht : 0 < t) (hfits : 2 * t < 2 ^ 64) :
    countAsFloat t / countAsFloat (2 * t) = 0.5 := by
  obtain ⟨⟨hnumber, hpos⟩, ⟨hnumber', hpos'⟩, hvalue⟩ := value_countAsFloat_two_mul ht hfits
  have hvaluePos := Double.value_pos hnumber hpos
  -- so the exact quotient is a half, and a half is a double
  have hquotient : Double.value (countAsFloat t) / Double.value (countAsFloat (2 * t)) =
      Double.value 0.5 := by
    rw [hvalue, value_half, div_mul_cancel_right₀ hvaluePos.ne', one_div]
  have hlog : Int.log 2 (Double.value (countAsFloat (2 * t))) =
      Int.log 2 (Double.value (countAsFloat t)) + 1 := by
    rw [hvalue, Double.log_two_mul hvaluePos]
  have hlogHalf : Int.log 2 (Double.value 0.5) = -1 :=
    Double.log_eq (by rw [value_half]; norm_num) (by rw [value_half]; norm_num)
  obtain ⟨-, hlevel⟩ := Double.level_div hnumber hpos hnumber' hpos' (by omega)
    (by rw [hquotient, hlogHalf]; decide)
  have hhalf : 0 < Double.level 0.5 := by decide +kernel
  have hsame : Double.level 0.5 = Double.rounded (Double.value 0.5) :=
    Double.level_eq_rounded (by decide +kernel) hhalf
  rw [hquotient, ← hsame] at hlevel
  exact Double.eq_of_level_eq (hlevel ▸ hhalf).ne' hlevel

/-- **Once twice the target has been sampled**, nothing more is. -/
theorem isSampledBy_eq_false {power : Float → Float → Float} {p : Progress}
    (hpower : p.target = 0 → (power 0.0 (0.0 / 0.0)).isNaN) (hlater : p.decidedLast ≠ 0)
    (hspent : p.sampled = 2 * p.target) (hfits : 2 * p.target < 2 ^ 64) {random : Float}
    (hrandom : 0.0 ≤ random) : isSampledBy power p random = false := by
  have hvoid : IsVoid (power (countAsFloat p.target)
      (countAsFloat p.target / countAsFloat p.sampled) -
      power (countAsFloat p.target) 0.5).toModel.unpack := by
    rw [hspent]
    rcases Nat.eq_zero_or_pos p.target with hzero | hpos
    · have hcount : countAsFloat 0 = 0.0 := by decide +kernel
      rw [hzero, Nat.mul_zero, hcount]
      exact Double.isVoid_sub_of_isNaN (hpower hzero) _
    · rw [countAsFloat_div_two_mul hpos hfits]
      exact Double.isVoid_sub_self _
  have hproduct : ¬ IsBelowZero (random * countAsFloat (max p.decided 1)).toModel.unpack :=
    Double.not_isBelowZero_mul (Double.not_isBelowZero_of_le hrandom)
      (not_isBelowZero_countAsFloat _)
  rw [isSampledBy, if_neg hlater, if_neg (by omega)]
  exact decide_eq_false (Double.not_lt_of_isVoid hproduct hvoid)

/-! ### The decisions of a cycle -/

/-- **What the decisions of a cycle come to**, by the decisions of the cycle before: the first cycle
samples the first `target` events, and any other one at most twice as many. A count has 64 bits;
one that cannot be told from twice the target there is out of reach. -/
structure IsRationed (decidedLast target : ℕ) (past : List Bool) : Prop where
  first : decidedLast = 0 → past = List.replicate (min target past.length) true ++
    List.replicate (past.length - target) false
  later : decidedLast ≠ 0 → 2 * target < 2 ^ 64 ∨ past.length ≤ 2 ^ 64 →
    past.count true ≤ 2 * target

theorem isRationed_nil (decidedLast target : ℕ) : IsRationed decidedLast target [] where
  first _ := by rw [List.length_nil, Nat.min_zero, Nat.zero_sub]; rfl
  later _ _ := Nat.zero_le _

theorem IsRationed.count_first {decidedLast target : ℕ} {past : List Bool}
    (h : IsRationed decidedLast target past) (hfirst : decidedLast = 0) :
    past.count true = min target past.length := by
  have hcount := congrArg (List.count true) (h.first hfirst)
  rwa [List.count_append, List.count_replicate_self, List.count_replicate, if_neg (by decide),
    Nat.add_zero] at hcount

/-- At most twice the target in any cycle. -/
theorem IsRationed.count_le {decidedLast target : ℕ} {past : List Bool}
    (h : IsRationed decidedLast target past) (hfits : 2 * target < 2 ^ 64 ∨ past.length ≤ 2 ^ 64) :
    past.count true ≤ 2 * target := by
  by_cases hfirst : decidedLast = 0
  · rw [h.count_first hfirst]
    omega
  · exact h.later hfirst hfits

/-- **One more decision.** -/
theorem IsRationed.decide {power : Float → Float → Float} {p : Progress} {past : List Bool}
    (h : IsRationed p.decidedLast p.target past) (hsampled : p.sampled = past.count true)
    (hpower : p.decidedLast ≠ 0 → p.target = 0 → (power 0.0 (0.0 / 0.0)).isNaN) {random : Float}
    (hrandom : 0.0 ≤ random) :
    IsRationed p.decidedLast p.target (past ++ [isSampledBy power p random]) := by
  refine ⟨fun hfirst => ?_, fun hlater hfits => ?_⟩
  · have hpast := h.first hfirst
    rw [isSampledBy, if_pos hfirst, hsampled, h.count_first hfirst, List.length_append,
      List.length_singleton]
    rcases Nat.lt_or_ge past.length p.target with hmore | hdone
    · rw [Nat.min_eq_right hmore.le, Nat.sub_eq_zero_of_le hmore.le, List.replicate_zero,
        List.append_nil] at hpast
      rw [decide_eq_true (by omega), Nat.min_eq_right hmore, Nat.sub_eq_zero_of_le hmore,
        List.replicate_zero, List.append_nil, List.replicate_succ']
      exact congrArg (· ++ [true]) hpast
    · rw [Nat.min_eq_left hdone] at hpast
      rw [decide_eq_false (by omega), Nat.min_eq_left (Nat.le_succ_of_le hdone),
        Nat.succ_sub hdone, List.replicate_succ', ← List.append_assoc]
      exact congrArg (· ++ [false]) hpast
  · rw [List.length_append, List.length_singleton] at hfits
    have hbefore := h.later hlater (hfits.imp_right Nat.le_of_succ_le)
    have hlength := past.count_le_length (a := true)
    rw [List.count_append]
    cases hyes : isSampledBy power p random with
    | false => simpa using hbefore
    | true =>
      -- the last one allowed has not been sampled before, or there are not as many decisions
      have hleft : past.count true ≠ 2 * p.target ∨ ¬ 2 * p.target < 2 ^ 64 := by
        by_contra hspent
        rw [not_or, not_not, not_not] at hspent
        rw [isSampledBy_eq_false (hpower hlater) hlater (hsampled.trans hspent.1) hspent.2
          hrandom] at hyes
        exact Bool.false_ne_true hyes
      rw [List.count_singleton_self]
      omega

/-! ### Any power function -/

namespace Reservoir

variable {E : Type}

/-- The next sampling decision of the cycle with the given power function. -/
def decideBy (power : Float → Float → Float) (r : Reservoir E) (random : Float) :
    Bool × Reservoir E :=
  let yes := isSampledBy power r.progress random
  (yes, { r with
    decided := r.decided + 1
    sampled := if yes then r.sampled + 1 else r.sampled })

theorem decideBy_pow (r : Reservoir E) (random : Float) :
    r.decideBy Float.pow random = r.decide random := rfl

/-- **What a reservoir has counted** of the decisions of its cycle. -/
structure Tallies (r : Reservoir E) (past : List Bool) : Prop where
  sampled : r.sampled = past.count true
  decided : r.decided = past.length
  isRationed : IsRationed r.decidedLast r.target past

variable {r other : Reservoir E} {past : List Bool} {power : Float → Float → Float}

theorem settings_eq_of_shell (h : other.shell = r.shell) :
    other.decidedLast = r.decidedLast ∧ other.target = r.target :=
  Prod.mk.inj (congrArg (·.2.2.2) h)

theorem tallies_nil (hsampled : r.sampled = 0) (hdecided : r.decided = 0) : r.Tallies [] :=
  ⟨hsampled, hdecided, isRationed_nil _ _⟩

/-- What is no decision does not count. -/
theorem Tallies.of_eq (h : r.Tallies past) (hshell : other.shell = r.shell)
    (hdecisions : other.decisions = r.decisions) : other.Tallies past := by
  obtain ⟨hlast, htarget⟩ := settings_eq_of_shell hshell
  obtain ⟨hsampled, hdecided⟩ := Prod.mk.inj hdecisions
  exact ⟨hsampled.trans h.sampled, hdecided.trans h.decided, hlast ▸ htarget ▸ h.isRationed⟩

/-- **One more decision** is counted. -/
theorem Tallies.decideBy (h : r.Tallies past)
    (hpower : r.decidedLast ≠ 0 → r.target = 0 → (power 0.0 (0.0 / 0.0)).isNaN) {random : Float}
    (hrandom : 0.0 ≤ random) :
    (r.decideBy power random).2.Tallies (past ++ [(r.decideBy power random).1]) where
  sampled := by
    rw [List.count_append, ← h.sampled]
    change (if isSampledBy power r.progress random then r.sampled + 1 else r.sampled) =
      r.sampled + [isSampledBy power r.progress random].count true
    cases isSampledBy power r.progress random <;> rfl
  decided := by
    rw [List.length_append, ← h.decided]
    rfl
  isRationed := IsRationed.decide (p := r.progress) h.isRationed h.sampled hpower hrandom

variable [HasPriority E]

/-- The reservoir after a call, with the given power function. -/
def performBy (power : Float → Float → Float) (r : Reservoir E) : Call E → Reservoir E
  | .decide random => (r.decideBy power random).2
  | c => r.perform c

theorem performBy_pow (r : Reservoir E) (c : Call E) : r.performBy Float.pow c = r.perform c := by
  cases c <;> rfl

/-- The decisions since a reservoir was made or cleared, one call later. -/
def pastAfter (power : Float → Float → Float) (r : Reservoir E) (past : List Bool) :
    Call E → List Bool
  | .decide random => past ++ [(r.decideBy power random).1]
  | .clear => []
  | _ => past

end Reservoir

/-- Whether the random number of a decision is not below zero. -/
def Call.IsFair {E : Type} : Call E → Prop
  | .decide random => 0.0 ≤ random
  | _ => True

instance {E : Type} (c : Call E) : Decidable c.IsFair :=
  match c with
  | .decide random => inferInstanceAs (Decidable (0.0 ≤ random))
  | .offer _ | .countTry | .close | .clear => .isTrue trivial

section Calls

variable {E : Type} [HasPriority E] {r : Reservoir E} {past : List Bool}
  {power : Float → Float → Float}

theorem Reservoir.shell_performBy (r : Reservoir E) (c : Call E) :
    (r.performBy power c).shell = r.shell := by
  cases c with
  | offer event => exact shell_offer r _ event
  | countTry => exact shell_countTry r
  | _ => rfl

omit [HasPriority E] in
theorem Reservoir.decisions_countTry (r : Reservoir E) : r.countTry.2.decisions = r.decisions := by
  rw [countTry]
  split <;> rfl

/-- **One call** is counted if it is a decision. -/
theorem Reservoir.Tallies.performBy (h : r.Tallies past)
    (hpower : r.decidedLast ≠ 0 → r.target = 0 → (power 0.0 (0.0 / 0.0)).isNaN) {c : Call E}
    (hfair : c.IsFair) : (r.performBy power c).Tallies (r.pastAfter power past c) := by
  cases c with
  | offer event => exact h.of_eq (shell_offer r _ event) (decisions_offer r _ event)
  | countTry => exact h.of_eq (shell_countTry r) (decisions_countTry r)
  | decide random => exact h.decideBy hpower hfair
  | close => exact h.of_eq rfl rfl
  | clear => exact tallies_nil rfl rfl

end Calls

/-! ### Reservoirs in use -/

namespace Fleet

variable {ι E : Type}

/-- Whether the random number of a step is not below zero, if it is a decision. -/
def Step.IsFair : Step ι E → Prop
  | .call _ c => c.IsFair
  | .merge _ _ => True

instance (step : Step ι E) : Decidable step.IsFair :=
  match step with
  | .call _ c => inferInstanceAs (Decidable c.IsFair)
  | .merge _ _ => .isTrue trivial

variable [DecidableEq ι] [HasPriority E]

/-- The reservoirs after a step, with the given power function. -/
def advanceBy (power : Float → Float → Float) (s : Fleet ι E) : Step ι E → Fleet ι E
  | .call i c => Function.update s i ((s i).performBy power c)
  | .merge i j => s.mergeInto i j

/-- The reservoirs after some steps, with the given power function. -/
def runBy (power : Float → Float → Float) (s : Fleet ι E) (steps : List (Step ι E)) : Fleet ι E :=
  steps.foldl (advanceBy power) s

/-- The reservoirs with the power function of the platform. -/
theorem runBy_pow (s : Fleet ι E) (steps : List (Step ι E)) :
    s.runBy Float.pow steps = s.run steps := by
  have hadvance : (advanceBy Float.pow : Fleet ι E → Step ι E → Fleet ι E) = advance := by
    funext s step
    cases step with
    | call i c => rw [advanceBy, Reservoir.performBy_pow, advance]
    | merge i j => rfl
  rw [runBy, hadvance, run]

/-- The decisions of a reservoir since it was made or cleared, one step later. -/
def remember (power : Float → Float → Float) (i : ι) (s : Fleet ι E) (past : List Bool) :
    Step ι E → List Bool
  | .call j c => if j = i then (s i).pastAfter power past c else past
  | .merge _ _ => past

/-- **The decisions of a reservoir** since it was made or cleared, some steps later. -/
def decisionsBy (power : Float → Float → Float) (i : ι) :
    Fleet ι E → List Bool → List (Step ι E) → List Bool
  | _, past, [] => past
  | s, past, step :: rest =>
    decisionsBy power i (s.advanceBy power step) (s.remember power i past step) rest

variable {s : Fleet ι E} {power : Float → Float → Float} {i : ι} {past : List Bool}

omit [HasPriority E] in
theorem shell_mergeInto (s : Fleet ι E) (i j k : ι) :
    (s.mergeInto i j k).shell = (s k).shell := by
  rw [mergeInto]
  split
  · rfl
  · rw [Function.update_apply, Function.update_apply]
    split
    next hk => rw [hk, Reservoir.shell_drained]
    next =>
      split
      next hk => rw [hk, Reservoir.shell_merge]
      next => rfl

omit [HasPriority E] in
/-- Merging decides nothing, for neither of the two. -/
theorem decisions_mergeInto (s : Fleet ι E) (i j k : ι) :
    (s.mergeInto i j k).decisions = (s k).decisions := by
  rw [mergeInto]
  split
  · rfl
  · rw [Function.update_apply, Function.update_apply]
    split
    next hk => rw [hk]; rfl
    next =>
      split
      next hk => rw [hk, Reservoir.decisions_merge]
      next => rfl

theorem shell_advanceBy (s : Fleet ι E) (step : Step ι E) (i : ι) :
    (s.advanceBy power step i).shell = (s i).shell := by
  cases step with
  | call j c =>
    rw [advanceBy, Function.update_apply]
    split
    next hi => rw [hi, Reservoir.shell_performBy]
    next => rfl
  | merge j k => exact shell_mergeInto s j k i

/-- **One step** keeps count. -/
theorem tallies_advanceBy (h : (s i).Tallies past)
    (hpower : (s i).decidedLast ≠ 0 → (s i).target = 0 → (power 0.0 (0.0 / 0.0)).isNaN)
    {step : Step ι E} (hfair : step.IsFair) :
    (s.advanceBy power step i).Tallies (s.remember power i past step) := by
  cases step with
  | call j c =>
    rw [advanceBy, remember, Function.update_apply]
    by_cases hi : i = j
    · subst hi
      rw [if_pos rfl, if_pos rfl]
      exact h.performBy hpower hfair
    · rw [if_neg hi, if_neg (Ne.symm hi)]
      exact h
  | merge j k => exact h.of_eq (shell_mergeInto s j k i) (decisions_mergeInto s j k i)

/-- **Any steps** keep count. -/
theorem tallies_runBy (h : (s i).Tallies past) (hpower : (power 0.0 (0.0 / 0.0)).isNaN)
    {steps : List (Step ι E)} (hfair : ∀ step ∈ steps, step.IsFair) :
    (s.runBy power steps i).Tallies (decisionsBy power i s past steps) := by
  induction steps generalizing s past with
  | nil => exact h
  | cons step rest ih =>
    rw [List.forall_mem_cons] at hfair
    exact ih (tallies_advanceBy h (fun _ _ => hpower) hfair.1) hfair.2

theorem shell_runBy (power : Float → Float → Float) (s : Fleet ι E) (steps : List (Step ι E))
    (i : ι) : (s.runBy power steps i).shell = (s i).shell := by
  induction steps generalizing s with
  | nil => rfl
  | cons step rest ih => exact (ih (s.advanceBy power step)).trans (shell_advanceBy s step i)

/-- **Adaptive sampling is bounded.** Whatever the calls on a reservoir among others and the merges
from and into it, the decisions since it was made or cleared are rationed by its target and by what
it knows of the cycle before, and it has counted all of them. Of the power function only this is
required, that zero to the power of a NaN is a NaN; of the random numbers, that none is negative. -/
theorem isRationed_of_fresh {power : Float → Float → Float}
    (hpower : (power 0.0 (0.0 / 0.0)).isNaN) (app service : ι → String)
    (capacity decidedLast target : ι → ℕ) {steps : List (Step ι E)}
    (hfair : ∀ step ∈ steps, step.IsFair) (i : ι) :
    let s : Fleet ι E := fresh app service capacity decidedLast target
    let past := decisionsBy power i s [] steps
    IsRationed (decidedLast i) (target i) past ∧
      (s.runBy power steps i).decisions = (past.count true, past.length) := by
  intro s past
  have htallies := tallies_runBy (s := s) (i := i) (Reservoir.tallies_nil rfl rfl) hpower hfair
  obtain ⟨hlast, htarget⟩ := Reservoir.settings_eq_of_shell (shell_runBy power s steps i)
  have hrationed := htallies.isRationed
  rw [hlast, htarget] at hrationed
  exact ⟨hrationed, Prod.ext htallies.sampled htallies.decided⟩

/-- The powers that the steps below come to, a cube root of four among them. -/
def knownPower (base exponent : Float) : Float :=
  if exponent.isNaN then exponent
  else if exponent = 1.0 then base
  else if exponent = 0.5 then base.sqrt
  else 1.5874010519681994

/-- Decisions of three reservoirs. The first one samples all it may, the second one must not sample
anything, and the third one starts again when it is cleared. -/
def mixedSteps : List (Step (Fin 3) Simulation.Event) :=
  [.call 0 (.decide 0.25), .call 1 (.decide 0.0), .call 0 (.offer ⟨"first", 1, 1.25, false⟩),
    .call 0 (.decide 0.0), .call 0 (.decide 0.1), .merge 1 0, .call 0 (.decide 0.01),
    .call 2 (.decide 0.9), .call 2 .clear, .call 0 (.decide 0.0), .call 2 (.decide 0.5),
    .call 2 (.decide 0.0)]

theorem isRationed_mixedSteps :
    let s : Fleet (Fin 3) Simulation.Event :=
      fresh (fun _ => "a") (fun _ => "s") (fun _ => 2) ![5, 3, 0] ![2, 0, 1]
    (knownPower 0.0 (0.0 / 0.0)).isNaN ∧ (∀ step ∈ mixedSteps, step.IsFair) ∧
      IsRationed 5 2 (decisionsBy knownPower 0 s [] mixedSteps) ∧
      IsRationed 3 0 (decisionsBy knownPower 1 s [] mixedSteps) ∧
      IsRationed 0 1 (decisionsBy knownPower 2 s [] mixedSteps) ∧
      decisionsBy knownPower 0 s [] mixedSteps = [true, true, true, true, false] ∧
      decisionsBy knownPower 1 s [] mixedSteps = [false] ∧
      decisionsBy knownPower 2 s [] mixedSteps = [true, false] := by
  intro s
  have hpower : (knownPower 0.0 (0.0 / 0.0)).isNaN := by decide +kernel
  have hfair : ∀ step ∈ mixedSteps, step.IsFair := by decide +kernel
  have hrationed := fun i => (isRationed_of_fresh hpower (fun _ => "a") (fun _ => "s") (fun _ => 2)
    ![5, 3, 0] ![2, 0, 1] hfair i).1
  exact ⟨hpower, hfair, hrationed 0, hrationed 1, hrationed 2, by decide +kernel,
    by decide +kernel, by decide +kernel⟩

end Fleet

end Telemetry.Sampling
