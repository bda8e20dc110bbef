import Telemetry.Proofs.Sampling.Arrangement
import Mathlib.Logic.Function.Basic

/-!
# Reservoirs in use

Any number of reservoirs, and any calls on them one after the other: each call is on one
reservoir, or merges one into another (`Fleet.Step`). Whatever the calls, every reservoir stays
*regular* (`Reservoir.IsRegular`, `Fleet.isRegular_of_fresh`):

* its heap is arranged, as far as its capacity goes;
* it has counted at least as many tries as it retains events;
* it has decided at least as often as it has marked an event as sampled.

The bound on the tries is a matter of two reservoirs at a time. Merging adds up the tries of
both, while a reservoir that gave its events away starts again from none.
-/

namespace Telemetry.Sampling

/-! ### Calls -/

/-- A call on one reservoir. -/
inductive Call (E : Type)
  | offer (event : E)
  /-- Counts an offer that was skipped. -/
  | countTry
  | decide (random : Float)
  /-- Seals the reservoir. -/
  | close
  | clear

/-- The reservoir after a call. -/
def Reservoir.perform {E : Type} [HasPriority E] (r : Reservoir E) : Call E → Reservoir E
  | .offer event => (r.offer (HasPriority.priority event) event).2
  | .countTry => r.countTry.2
  | .decide random => (r.decide random).2
  | .close => r.sealed
  | .clear => r.clear

/-- Reservoirs, each in its place. -/
abbrev Fleet (ι E : Type) := ι → Reservoir E

namespace Fleet

/-- What happens next to some reservoirs. -/
inductive Step (ι E : Type)
  | call (i : ι) (c : Call E)
  /-- The reservoir at `j` is merged into the one at `i`. -/
  | merge (i j : ι)

variable {ι E : Type}

/-- New reservoirs. -/
def fresh (app service : ι → String) (capacity decidedLast target : ι → Nat) : Fleet ι E :=
  fun i => .empty (app i) (service i) (capacity i) (decidedLast i) (target i)

variable [DecidableEq ι]

/-- The reservoirs after a merge. Merging a reservoir into itself does nothing. -/
def mergeInto (s : Fleet ι E) (i j : ι) : Fleet ι E :=
  if i = j then s else Function.update (Function.update s i ((s i).merge (s j))) j (s j).drained

variable [HasPriority E]

/-- The reservoirs after a step. -/
def advance (s : Fleet ι E) : Step ι E → Fleet ι E
  | .call i c => Function.update s i ((s i).perform c)
  | .merge i j => s.mergeInto i j

/-- The reservoirs after some steps. -/
def run (s : Fleet ι E) (steps : List (Step ι E)) : Fleet ι E := steps.foldl advance s

end Fleet

namespace Reservoir

variable {E : Type} {r other : Reservoir E}

/-! ### How many events are retained -/

/-- **Inserting** makes one more, unless the reservoir is full. -/
theorem size_insert (r : Reservoir E) (priority : Float) (event : E) :
    (r.insert priority event).2.size = if r.isFull then r.size else r.size + 1 := by
  rw [insert]
  split
  · split
    next hhigh =>
      rw [size_append]
      exact size_evict (size_pos_of_outranksLowest hhigh)
    next => rfl
  · exact size_append r priority event

theorem capacity_insert (r : Reservoir E) (priority : Float) (event : E) :
    (r.insert priority event).2.capacity = r.capacity :=
  congrArg (·.2.2.1) (shell_insert r priority event)

/-- Inserting several makes as many more as there is room for. -/
theorem size_insertAll (h : r.size ≤ r.capacity) (entries : List (Entry E)) :
    (r.insertAll entries).size = min r.capacity (r.size + entries.length) := by
  induction entries generalizing r with
  | nil => exact (Nat.min_eq_right h).symm
  | cons e rest ih =>
    have hsize := size_insert r e.priority e.event
    have hcapacity := capacity_insert r e.priority e.event
    have hfull : r.isFull ↔ r.capacity ≤ r.size := by rw [isFull, decide_eq_true_iff]
    simp only [hfull] at hsize
    change ((r.insert e.priority e.event).2.insertAll rest).size = _
    rw [List.length_cons, ih (by rw [hcapacity, hsize]; split <;> omega), hcapacity, hsize]
    split <;> omega

/-- **Merging** retains as many as there were, up to the capacity. -/
theorem size_merge (h : r.size ≤ r.capacity) (other : Reservoir E) :
    (r.merge other).size = min r.capacity (r.size + other.size) :=
  size_insertAll (r := { r with tries := r.tries + other.tries }) h other.heap.toList

/-! ### Decisions -/

/-- How many events were marked as sampled, and how many decisions were made. -/
def decisions (r : Reservoir E) : Nat × Nat := (r.sampled, r.decided)

theorem decisions_evict (r : Reservoir E) : r.evict.decisions = r.decisions := by
  rw [evict]
  split <;> rfl

theorem decisions_insert (r : Reservoir E) (priority : Float) (event : E) :
    (r.insert priority event).2.decisions = r.decisions := by
  rw [insert]
  split
  · split
    · exact decisions_evict r
    · rfl
  · rfl

theorem decisions_insertAll (r : Reservoir E) (entries : List (Entry E)) :
    (r.insertAll entries).decisions = r.decisions := by
  induction entries generalizing r with
  | nil => rfl
  | cons e rest ih => exact (ih _).trans (decisions_insert r e.priority e.event)

/-- Merging decides nothing. -/
theorem decisions_merge (r other : Reservoir E) : (r.merge other).decisions = r.decisions :=
  decisions_insertAll { r with tries := r.tries + other.tries } other.heap.toList

theorem decisions_offer (r : Reservoir E) (priority : Float) (event : E) :
    (r.offer priority event).2.decisions = r.decisions := by
  rcases r.offer_cases priority event with ⟨-, ho⟩ | ⟨-, -, ho⟩ | ⟨-, -, ho⟩
  · rw [ho]
  · rw [ho]
    exact decisions_insert r.tried priority event
  · rw [ho]
    rfl

/-! ### Regular reservoirs -/

/-- **A regular reservoir**: what holds of every reservoir in use. -/
structure IsRegular [HasPriority E] (r : Reservoir E) : Prop extends r.IsArranged where
  size_le_tries : r.size ≤ r.tries
  sampled_le_decided : r.sampled ≤ r.decided

section Regular

variable [HasPriority E]

theorem isRegular_empty (app service : String) (capacity decidedLast target : Nat) :
    (empty app service capacity decidedLast target : Reservoir E).IsRegular :=
  ⟨isArranged_of_heap_eq_empty rfl, Nat.le_refl 0, Nat.le_refl 0⟩

theorem IsRegular.offer (h : r.IsRegular) (event : E) :
    (r.offer (HasPriority.priority event) event).2.IsRegular := by
  refine ⟨h.toIsArranged.offer event, ?_, ?_⟩
  · rcases r.offer_cases (HasPriority.priority event) event with ⟨-, ho⟩ | ⟨-, -, ho⟩ | ⟨-, -, ho⟩
    · rw [ho]
      exact h.size_le_tries
    · -- one event more at most, and one try more
      have hsize := size_insert r.tried (HasPriority.priority event) event
      have htries := h.size_le_tries
      have hsame : r.tried.size = r.size := rfl
      rw [ho, tries_insert, tries_tried]
      simp only
      split at hsize <;> omega
    · rw [ho]
      exact Nat.le_succ_of_le h.size_le_tries
  · have hdecisions := decisions_offer r (HasPriority.priority event) event
    rw [decisions, decisions, Prod.mk.injEq] at hdecisions
    rw [hdecisions.1, hdecisions.2]
    exact h.sampled_le_decided

theorem IsRegular.countTry (h : r.IsRegular) : r.countTry.2.IsRegular := by
  have harranged := h.toIsArranged.countTry
  rw [Reservoir.countTry] at harranged ⊢
  split
  · exact h
  next hopen =>
    rw [if_neg hopen] at harranged
    exact ⟨harranged, Nat.le_succ_of_le h.size_le_tries, h.sampled_le_decided⟩

theorem IsRegular.decide (h : r.IsRegular) (random : Float) : (r.decide random).2.IsRegular := by
  refine ⟨h.toIsArranged.of_heap_eq rfl rfl rfl, h.size_le_tries, ?_⟩
  have hle := h.sampled_le_decided
  change (if isSampled r.progress random then r.sampled + 1 else r.sampled) ≤ r.decided + 1
  split <;> omega

/-- **Every call** keeps a reservoir regular. -/
theorem IsRegular.perform (h : r.IsRegular) (c : Call E) : (r.perform c).IsRegular := by
  cases c with
  | offer event => exact h.offer event
  | countTry => exact h.countTry
  | decide random => exact h.decide random
  | close => exact ⟨h.toIsArranged.of_heap_eq rfl rfl rfl, h.size_le_tries, h.sampled_le_decided⟩
  | clear => exact ⟨isArranged_of_heap_eq_empty rfl, Nat.le_refl 0, Nat.le_refl 0⟩

/-- **A merge** keeps both reservoirs regular. -/
theorem IsRegular.merge (h : r.IsRegular) (hother : other.IsRegular) :
    (r.merge other).IsRegular := by
  refine ⟨h.toIsArranged.merge hother.toIsArranged, ?_, ?_⟩
  · have hsize := size_merge h.size_le_capacity other
    have htries := h.size_le_tries
    have htries' := hother.size_le_tries
    rw [tries_merge]
    omega
  · have hdecisions := decisions_merge r other
    rw [decisions, decisions, Prod.mk.injEq] at hdecisions
    rw [hdecisions.1, hdecisions.2]
    exact h.sampled_le_decided

theorem IsRegular.drained (h : r.IsRegular) : r.drained.IsRegular :=
  ⟨isArranged_of_heap_eq_empty rfl, Nat.le_refl 0, h.sampled_le_decided⟩

end Regular

end Reservoir

namespace Fleet

variable {ι E : Type} [DecidableEq ι] [HasPriority E] {s : Fleet ι E}

/-- **One step** keeps all reservoirs regular. -/
theorem isRegular_advance (h : ∀ i, (s i).IsRegular) (step : Step ι E) (i : ι) :
    (s.advance step i).IsRegular := by
  cases step with
  | call j c =>
    rw [advance, Function.update_apply]
    split
    · exact (h j).perform c
    · exact h i
  | merge j k =>
    rw [advance, mergeInto]
    by_cases hjk : j = k
    · rw [if_pos hjk]
      exact h i
    · rw [if_neg hjk, Function.update_apply, Function.update_apply]
      split
      · exact (h k).drained
      · split
        · exact (h j).merge (h k)
        · exact h i

theorem isRegular_run (h : ∀ i, (s i).IsRegular) (steps : List (Step ι E)) :
    ∀ i, (s.run steps i).IsRegular := by
  induction steps generalizing s with
  | nil => exact h
  | cons step rest ih => exact ih (isRegular_advance h step)

omit [DecidableEq ι] in
theorem isRegular_fresh (app service : ι → String) (capacity decidedLast target : ι → Nat)
    (i : ι) : (fresh app service capacity decidedLast target i : Reservoir E).IsRegular :=
  Reservoir.isRegular_empty (app i) (service i) (capacity i) (decidedLast i) (target i)

/-- **Every reservoir in use is regular**, whatever the calls on it and the merges from and into
it. So its lowest priority is that of the last event on its list, and the list descends. -/
theorem isRegular_of_fresh (app service : ι → String) (capacity decidedLast target : ι → Nat)
    (steps : List (Step ι E)) (i : ι) :
    let r := (fresh app service capacity decidedLast target).run steps i
    r.IsRegular ∧ (r.minPriority? = none ↔ r.isEmpty) ∧
      (∀ low, r.minPriority? = some low →
        (∃ event ∈ r.retained, HasPriority.priority event = low) ∧
          ∀ event ∈ r.retained, Double.rank low ≤ Double.rank (HasPriority.priority event)) ∧
      (r.toList : Multiset E) = r.retained ∧
      r.toList.Pairwise fun a b =>
        Double.rank (HasPriority.priority b) ≤ Double.rank (HasPriority.priority a) := by
  have h := isRegular_run (isRegular_fresh app service capacity decidedLast target) steps i
  exact ⟨h, h.minPriority?_eq_none_iff, fun _ => h.minPriority?_spec, Reservoir.coe_toList _,
    h.pairwise_toList⟩

end Fleet

end Telemetry.Sampling
