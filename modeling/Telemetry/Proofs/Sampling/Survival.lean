import Telemetry.Proofs.Sampling.Adaptive
import Telemetry.Proofs.Sampling.Priority
import Telemetry.Proofs.Sampling.Stream

/-!
# Sampled events survive their cycle

In a cycle, each event is decided upon, gets a priority by that decision, and is offered to the
reservoir that has decided (`Reservoir.InCycle`). Three facts come together then:

* sampled events outrank the others (`isGraded_priorityOf`);
* the reservoir keeps the events that rank first (`Reservoir.Tops`);
* no more than twice the target is sampled (`IsRationed`).

By the first two, the reservoir loses a sampled event only if it is full of them
(`Reservoir.InCycle.keepsSampled`). By the third one, it loses none if it has room for twice the
target (`Reservoir.InCycle.sampled_le_retained`).
-/

namespace Telemetry.Sampling

/-! ### Lists -/

section Lists

variable {α β : Type}

/-- If all that count come first, the first elements are of those. -/
theorem countP_take {p : α → Bool} {l : List α} (h : l.Pairwise fun a b => p b → p a) (n : ℕ) :
    (l.take n).countP p = min n (l.countP p) := by
  induction l generalizing n with
  | nil => rw [List.take_nil, List.countP_nil, Nat.min_zero]
  | cons x rest ih =>
    obtain ⟨hx, hrest⟩ := List.pairwise_cons.1 h
    cases n with
    | zero => rw [List.take_zero, List.countP_nil, Nat.zero_min]
    | succ n =>
      rw [List.take_succ_cons, List.countP_cons, List.countP_cons, ih hrest]
      cases hp : p x with
      | true => simp only [if_true]; omega
      | false =>
        have hnone : rest.countP p = 0 := List.countP_eq_zero.2 fun y hy hcount => by
          rw [hx y hy hcount] at hp
          exact Bool.false_ne_true hp.symm
        rw [hnone, Nat.min_zero, Nat.zero_add, if_neg Bool.false_ne_true, Nat.min_zero]

/-- Some of the images are the images of some. -/
theorem exists_sublist_of_le_map {f : α → β} {l : List α} {m : List β}
    (h : (m : Multiset β) ≤ (l.map f : List β)) :
    ∃ kept : List α, kept.Sublist l ∧ (kept.map f).Perm m := by
  obtain ⟨some, hperm, hsub⟩ := Multiset.coe_le.1 h
  obtain ⟨kept, hkept, rfl⟩ := List.sublist_map_iff.1 hsub
  exact ⟨kept, hkept, hperm⟩

end Lists

/-! ### Grades -/

theorem IsGraded.level_eq_rank {sampled : Bool} {x : Float} (h : IsGraded sampled x) :
    Double.level x = Double.rank x := by
  have hnonneg := h.nonneg
  rw [Double.rank] at hnonneg ⊢
  rw [Double.level]
  split at hnonneg
  · omega
  next hpositive => rw [if_neg hpositive, if_neg hpositive]

section Cycle

variable {E : Type} [HasPriority E] {drawn : List (Bool × E)}

/-- Whether the priority of an event is that of a sampled event. -/
def isHigh (event : E) : Bool := Double.level 1.0 ≤ Double.level (HasPriority.priority event)

/-- Events whose priorities have been drawn by what was decided. -/
def AreGraded (drawn : List (Bool × E)) : Prop :=
  ∀ x ∈ drawn, IsGraded x.1 (HasPriority.priority x.2)

theorem AreGraded.isHigh_eq (h : AreGraded drawn) {x : Bool × E} (hx : x ∈ drawn) :
    isHigh x.2 = x.1 := by
  rw [Bool.eq_iff_iff, isHigh, decide_eq_true_iff]
  exact (h x hx).grade.symm

/-- How many have been sampled can be told from the priorities. -/
theorem AreGraded.countP_isHigh (h : AreGraded drawn) :
    (drawn.map (·.2)).countP isHigh = drawn.countP (·.1) := by
  rw [List.countP_map]
  exact List.countP_congr fun x hx => by rw [Function.comp_apply, h.isHigh_eq hx]

/-- None of them is the negative zero. -/
theorem AreGraded.agree (h : AreGraded drawn) : Agree (drawn.map (·.2)) := by
  intro a ha b hb hlevel
  obtain ⟨x, hx, rfl⟩ := List.mem_map.1 ha
  obtain ⟨y, hy, rfl⟩ := List.mem_map.1 hb
  rw [← (h x hx).level_eq_rank, ← (h y hy).level_eq_rank, hlevel]

omit [HasPriority E] in
theorem count_map_fst (drawn : List (Bool × E)) :
    (drawn.map (·.1)).count true = drawn.countP (·.1) := by
  rw [List.count, List.countP_map]
  exact List.countP_congr fun x _ => by rw [Function.comp_apply, beq_true]

namespace Reservoir

/-- **A reservoir in its cycle**: it had the given settings when it was empty, and since then these
decisions have been made, and the events offered for which they were. -/
structure InCycle (M decidedLast target : ℕ) (drawn : List (Bool × E)) (r : Reservoir E) :
    Prop where
  tops : r.Tops M (drawn.map (·.2))
  isOpen : r.isSealed = false
  settings : r.decidedLast = decidedLast ∧ r.target = target
  graded : AreGraded drawn
  tallies : (decidedLast ≠ 0 → target = 0 → (Float.pow 0.0 (0.0 / 0.0)).isNaN) →
    r.Tallies (drawn.map (·.1))

variable {M decidedLast target : ℕ} {r : Reservoir E}

/-- **A reservoir at the start of its cycle**: it holds nothing, and has decided nothing. -/
structure StartsCycle (M decidedLast target : ℕ) (r : Reservoir E) : Prop where
  isEmpty : r.isEmpty
  decisions : r.decisions = (0, 0)
  capacity : r.capacity = M
  settings : r.decidedLast = decidedLast ∧ r.target = target

theorem StartsCycle.inCycle (h : r.StartsCycle M decidedLast target) (hopen : r.isSealed = false) :
    r.InCycle M decidedLast target [] := by
  have hheap : r.heap = #[] := Array.eq_empty_of_size_eq_zero (of_decide_eq_true h.isEmpty)
  have hlist : r.toList = [] :=
    List.eq_nil_of_length_eq_zero ((length_toList r).trans (of_decide_eq_true h.isEmpty))
  obtain ⟨hsampled, hdecided⟩ := Prod.mk.inj h.decisions
  refine ⟨⟨isArranged_of_heap_eq_empty hheap, h.capacity, ?_⟩, hopen, h.settings, ?_,
    fun _ => tallies_nil hsampled hdecided⟩
  · rw [hlist, List.map_nil, ranking, List.mergeSort_nil, List.take_nil]
  · exact fun x hx => absurd hx List.not_mem_nil

/-- **One more event.** -/
theorem InCycle.next (h : r.InCycle M decidedLast target drawn) {random : Float}
    (hrandom : IsFraction random) {event : E}
    (hgraded : IsGraded (r.decide random).1 (HasPriority.priority event)) :
    ((r.decide random).2.offer (HasPriority.priority event) event).2.InCycle M decidedLast target
      (drawn ++ [((r.decide random).1, event)]) := by
  have hshell : ((r.decide random).2.offer (HasPriority.priority event) event).2.shell = r.shell :=
    (shell_offer _ _ _).trans (shell_decide r random)
  obtain ⟨hlast, htarget⟩ := settings_eq_of_shell hshell
  have hmore : AreGraded (drawn ++ [((r.decide random).1, event)]) := fun x hx => by
    rcases List.mem_append.1 hx with hx | hx
    · exact h.graded x hx
    · rw [List.mem_singleton.1 hx]
      exact hgraded
  have hdecided : (r.decide random).2.Tops M (drawn.map (·.2)) := h.tops.of_heap_eq rfl rfl rfl
  have harrivals : arrivals [Call.offer event] = [event] :=
    List.filter_cons_of_pos hgraded.number
  have hagree := hmore.agree
  rw [List.map_append, List.map_singleton, ← harrivals] at hagree
  obtain ⟨htops, hopen, -⟩ := hdecided.perform (c := .offer event) h.isOpen trivial hagree
  refine ⟨?_, hopen, ⟨hlast.trans h.settings.1, htarget.trans h.settings.2⟩, hmore,
    fun hpower => ?_⟩
  · rw [List.map_append, List.map_singleton, ← harrivals]
    exact htops
  · have hfair : 0.0 ≤ random := by
      rw [Double.le_iff_level_le (by decide +kernel) hrandom.number]
      exact hrandom.nonneg
    have hpower' : r.decidedLast ≠ 0 → r.target = 0 → (Float.pow 0.0 (0.0 / 0.0)).isNaN := by
      rwa [h.settings.1, h.settings.2]
    have htallies := (h.tallies hpower).decideBy hpower' hfair
    rw [decideBy_pow] at htallies
    rw [List.map_append, List.map_singleton]
    exact htallies.of_eq (shell_offer _ _ _) (decisions_offer _ _ _)

/-- **Room for twice the target** is enough for all that are sampled. -/
theorem InCycle.sampled_le (h : r.InCycle M decidedLast target drawn)
    (hpower : decidedLast ≠ 0 → target = 0 → (Float.pow 0.0 (0.0 / 0.0)).isNaN)
    (hfits : 2 * target < 2 ^ 64 ∨ drawn.length ≤ 2 ^ 64) :
    drawn.countP (·.1) ≤ 2 * target := by
  have hrationed := (h.tallies hpower).isRationed
  rw [h.settings.1, h.settings.2] at hrationed
  rw [← count_map_fst]
  exact hrationed.count_le (by rwa [List.length_map])

/-- As many sampled events are retained as there is room for, of all those that were offered. -/
def KeepsSampled (M : ℕ) (drawn : List (Bool × E)) (r : Reservoir E) : Prop :=
  ∃ kept : List (Bool × E), kept.Sublist drawn ∧
    ((kept.map (·.2) : List E) : Multiset E) = r.retained ∧
    kept.countP (·.1) = min M (drawn.countP (·.1))

/-- **A reservoir keeps sampled events** as long as it has room for them. -/
theorem InCycle.keepsSampled (h : r.InCycle M decidedLast target drawn) :
    r.KeepsSampled M drawn := by
  have hsorted : (ranking (drawn.map (·.2))).Pairwise fun a b => isHigh b → isHigh a :=
    (pairwise_ranking _).imp fun hrank hhigh => decide_eq_true
      ((of_decide_eq_true hhigh).trans (Double.level_le_of_rank_le hrank))
  have hle : (r.toList : Multiset E) ≤ (drawn.map (·.2) : List E) := by
    rw [h.tops.toList]
    exact Multiset.coe_le.2 ((List.take_sublist M _).subperm.trans (ranking_perm _).subperm)
  obtain ⟨kept, hkept, hperm⟩ := exists_sublist_of_le_map hle
  have hgraded : AreGraded kept := fun x hx => h.graded x (hkept.subset hx)
  refine ⟨kept, hkept, (Multiset.coe_eq_coe.2 hperm).trans (coe_toList r), ?_⟩
  rw [← hgraded.countP_isHigh, hperm.countP_eq, h.tops.toList, countP_take hsorted,
    (ranking_perm _).countP_eq, h.graded.countP_isHigh]

/-- If there are no more sampled events than it has room for, it keeps all of them. -/
theorem InCycle.sampled_le_retained (h : r.InCycle M decidedLast target drawn)
    (hroom : drawn.countP (·.1) ≤ M) :
    (((drawn.filter (·.1)).map (·.2) : List E) : Multiset E) ≤ r.retained := by
  obtain ⟨kept, hkept, hretained, hcount⟩ := h.keepsSampled
  have hsame : kept.filter (·.1) = drawn.filter (·.1) := by
    refine (hkept.filter _).eq_of_length ?_
    rw [← List.countP_eq_length_filter, ← List.countP_eq_length_filter, hcount,
      Nat.min_eq_right hroom]
  rw [← hsame, ← hretained]
  exact Multiset.coe_le.2 (List.filter_sublist.map _).subperm

end Reservoir

end Cycle

end Telemetry.Sampling
