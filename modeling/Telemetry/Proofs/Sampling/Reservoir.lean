import Telemetry.Sampling.Reservoir
import Telemetry.Proofs.Sampling.Heap
import Mathlib.Algebra.Order.Group.Multiset
import Mathlib.Tactic.Abel

/-!
# What a reservoir retains

The events of a reservoir stand in a heap array that every operation rearranges, so they
are read here as a multiset, `Reservoir.retained`. Each operation then has one equation:

| operation | what is retained afterwards |
|---|---|
| `Reservoir.offer` | the event joins, and evicted events leave (`Reservoir.retained_offer`) |
| `Reservoir.merge` | both contents, less evicted events (`Reservoir.retained_merge`) |
| `Reservoir.drained`, `Reservoir.clear` | nothing |
| `Reservoir.countTry`, `Reservoir.decide`, `Reservoir.sealed` | the same |

Nothing is evicted while there is room. The application, the label and the capacity of a
reservoir never change; `Reservoir.shell` has them all.
-/

namespace Telemetry.Sampling.Reservoir

variable {E : Type}

/-- The retained events, in no order. -/
def retained (r : Reservoir E) : Multiset E := ((r.heap.toList.map (·.event) : List E) : Multiset E)

/-- What never changes about a reservoir: application, label, capacity, and the settings of
its cycle. -/
def shell (r : Reservoir E) : String × String × Nat × Nat × Nat :=
  (r.app, r.service, r.capacity, r.decidedLast, r.target)

/-- The list of the retained events is the multiset of them. -/
theorem coe_toList (r : Reservoir E) : (r.toList : Multiset E) = r.retained :=
  Multiset.coe_eq_coe.2 ((List.mergeSort_perm _ _).map _)

@[simp] theorem card_retained (r : Reservoir E) : r.retained.card = r.size := by
  simp [retained, size]

theorem length_toList (r : Reservoir E) : r.toList.length = r.size := by
  rw [← card_retained, ← coe_toList, Multiset.coe_card]

@[simp] theorem retained_empty (app service : String) (capacity decidedLast target : Nat) :
    (empty app service capacity decidedLast target : Reservoir E).retained = 0 := rfl

theorem isEmpty_iff {r : Reservoir E} : r.isEmpty ↔ r.retained = 0 := by
  rw [← Multiset.card_eq_zero, card_retained]
  simp [isEmpty]

/-! ### Insertion -/

@[simp] theorem retained_append (r : Reservoir E) (priority : Float) (event : E) :
    (r.append priority event).retained = event ::ₘ r.retained :=
  Multiset.coe_eq_coe.2 ((Heap.push_perm r.heap ⟨priority, r.nextSeq, event⟩).map _)

@[simp] theorem size_append (r : Reservoir E) (priority : Float) (event : E) :
    (r.append priority event).size = r.size + 1 := by
  rw [← card_retained, retained_append, Multiset.card_cons, card_retained]

/-- **Evicting** drops some of the retained events. -/
theorem exists_evicted (r : Reservoir E) : ∃ lost, r.evict.retained + lost = r.retained := by
  rw [evict]
  split
  next top rest h =>
    refine ⟨{top.event}, ?_⟩
    have hperm := (Heap.pop?_perm h).1.map (·.event)
    rw [Multiset.add_comm, Multiset.singleton_add]
    exact (Multiset.coe_eq_coe.2 hperm).symm
  next => exact ⟨0, Multiset.add_zero _⟩

/-- **Inserting** an event that finds a place adds it, and drops nothing while there is
room. -/
theorem retained_insert (r : Reservoir E) (priority : Float) (event : E) :
    ∃ lost, (r.insert priority event).2.retained + lost = event ::ₘ r.retained ∧
      (r.size < r.capacity → lost = 0) := by
  rw [insert]
  split
  next hfull =>
    have hroom : ¬ r.size < r.capacity := by
      simpa [isFull] using hfull
    split
    next =>
      obtain ⟨lost, hlost⟩ := r.exists_evicted
      exact ⟨lost, by simp [← hlost], fun h => absurd h hroom⟩
    next => exact ⟨{event}, by rw [Multiset.add_comm, Multiset.singleton_add],
        fun h => absurd h hroom⟩
  next => exact ⟨0, by simp, fun _ => rfl⟩

@[simp] theorem shell_evict (r : Reservoir E) : r.evict.shell = r.shell := by
  rw [evict]
  split <;> rfl

@[simp] theorem shell_append (r : Reservoir E) (priority : Float) (event : E) :
    (r.append priority event).shell = r.shell := rfl

@[simp] theorem shell_insert (r : Reservoir E) (priority : Float) (event : E) :
    (r.insert priority event).2.shell = r.shell := by
  rw [insert]
  split
  · split <;> simp
  · simp

theorem tries_evict (r : Reservoir E) : r.evict.tries = r.tries := by
  rw [evict]
  split <;> rfl

@[simp] theorem tries_insert (r : Reservoir E) (priority : Float) (event : E) :
    (r.insert priority event).2.tries = r.tries := by
  rw [insert]
  split
  · split
    · exact tries_evict r
    · rfl
  · rfl

theorem isSealed_evict (r : Reservoir E) : r.evict.isSealed = r.isSealed := by
  rw [evict]
  split <;> rfl

@[simp] theorem isSealed_insert (r : Reservoir E) (priority : Float) (event : E) :
    (r.insert priority event).2.isSealed = r.isSealed := by
  rw [insert]
  split
  · split
    · exact isSealed_evict r
    · rfl
  · rfl

/-! ### Offers and tries -/

/-- The reservoir with one more try. -/
def tried (r : Reservoir E) : Reservoir E := { r with tries := r.tries + 1 }

@[simp] theorem retained_tried (r : Reservoir E) : r.tried.retained = r.retained := rfl

@[simp] theorem shell_tried (r : Reservoir E) : r.tried.shell = r.shell := rfl

@[simp] theorem tries_tried (r : Reservoir E) : r.tried.tries = r.tries + 1 := rfl

@[simp] theorem isSealed_tried (r : Reservoir E) : r.tried.isSealed = r.isSealed := rfl

/-- A sealed reservoir refuses to decide. -/
theorem offer_of_isSealed {r : Reservoir E} (h : r.isSealed) (priority : Float) (event : E) :
    r.offer priority event = (.closed event, r) := by
  rw [offer, if_pos h]

/-- A priority that is no number only counts as a try. -/
theorem offer_of_not_isNumber {r : Reservoir E} (h : r.isSealed = false) {priority : Float}
    (hn : Double.isNumber priority = false) (event : E) :
    r.offer priority event = (.rejected event, r.tried) := by
  rw [offer, if_neg (by rw [h]; exact Bool.false_ne_true)]
  exact if_neg (by rw [hn]; exact Bool.false_ne_true)

/-- Any other offer is an insertion that counts as a try. -/
theorem offer_of_isNumber {r : Reservoir E} (h : r.isSealed = false) {priority : Float}
    (hn : Double.isNumber priority) (event : E) :
    r.offer priority event = ((r.tried.insert priority event).1.elim .accepted .rejected,
      (r.tried.insert priority event).2) := by
  rw [offer, if_neg (by rw [h]; exact Bool.false_ne_true)]
  exact if_pos hn

/-- **An insertion** takes the event, or hands it back and changes nothing. -/
theorem insert_cases (r : Reservoir E) (priority : Float) (event : E) :
    (r.insert priority event).1 = none ∨
      (r.isFull ∧ r.insert priority event = (some event, r)) := by
  rw [insert]
  split
  next hfull =>
    split
    next => exact .inl rfl
    next => exact .inr ⟨hfull, rfl⟩
  next => exact .inl rfl

/-- **What an offer does**: a sealed reservoir stays as it is; otherwise a try is counted,
and an accepted event joins, a rejected one does not. -/
theorem offer_cases (r : Reservoir E) (priority : Float) (event : E) :
    (r.isSealed ∧ r.offer priority event = (.closed event, r)) ∨
    (r.isSealed = false ∧ Double.isNumber priority ∧
      r.offer priority event = (.accepted, (r.tried.insert priority event).2)) ∨
    (r.isSealed = false ∧ (Double.isNumber priority → r.isFull) ∧
      r.offer priority event = (.rejected event, r.tried)) := by
  by_cases hs : r.isSealed
  · exact .inl ⟨hs, offer_of_isSealed hs priority event⟩
  · rw [Bool.not_eq_true] at hs
    by_cases hn : Double.isNumber priority
    · have ho := offer_of_isNumber hs hn event
      rcases r.tried.insert_cases priority event with hkept | ⟨hfull, hreturned⟩
      · exact .inr (.inl ⟨hs, hn, by rw [ho, hkept]; rfl⟩)
      · exact .inr (.inr ⟨hs, fun _ => hfull, by rw [ho, hreturned]; rfl⟩)
    · rw [Bool.not_eq_true] at hn
      refine .inr (.inr ⟨hs, fun h => ?_, offer_of_not_isNumber hs hn event⟩)
      rw [hn] at h
      exact absurd h Bool.false_ne_true

/-- **An event that is not retained comes back** as it was offered. -/
theorem offer_fst_cases (r : Reservoir E) (priority : Float) (event : E) :
    (r.offer priority event).1 = .accepted ∨ (r.offer priority event).1 = .rejected event ∨
      (r.offer priority event).1 = .closed event := by
  rcases r.offer_cases priority event with ⟨-, ho⟩ | ⟨-, -, ho⟩ | ⟨-, -, ho⟩ <;> simp [ho]

/-- An open reservoir decides. -/
theorem offer_fst_ne_closed {r : Reservoir E} (h : r.isSealed = false) (priority : Float)
    (event returned : E) : (r.offer priority event).1 ≠ .closed returned := by
  rcases r.offer_cases priority event with ⟨hsealed, -⟩ | ⟨-, -, ho⟩ | ⟨-, -, ho⟩
  · rw [h] at hsealed
    exact absurd hsealed Bool.false_ne_true
  · simp [ho]
  · simp [ho]

@[simp] theorem shell_offer (r : Reservoir E) (priority : Float) (event : E) :
    (r.offer priority event).2.shell = r.shell := by
  rcases r.offer_cases priority event with ⟨_, h⟩ | ⟨_, _, h⟩ | ⟨_, _, h⟩ <;> simp [h]

@[simp] theorem isSealed_offer (r : Reservoir E) (priority : Float) (event : E) :
    (r.offer priority event).2.isSealed = r.isSealed := by
  rcases r.offer_cases priority event with ⟨_, h⟩ | ⟨_, _, h⟩ | ⟨_, _, h⟩ <;> simp [h]

theorem countTry_of_isSealed {r : Reservoir E} (h : r.isSealed) : r.countTry = (false, r) := by
  rw [countTry, if_pos h]

theorem countTry_of_not_isSealed {r : Reservoir E} (h : r.isSealed = false) :
    r.countTry = (true, r.tried) := by
  rw [countTry, if_neg (by rw [h]; exact Bool.false_ne_true)]
  rfl

@[simp] theorem retained_countTry (r : Reservoir E) : r.countTry.2.retained = r.retained := by
  rw [countTry]
  split <;> rfl

@[simp] theorem shell_countTry (r : Reservoir E) : r.countTry.2.shell = r.shell := by
  rw [countTry]
  split <;> rfl

@[simp] theorem isSealed_countTry (r : Reservoir E) : r.countTry.2.isSealed = r.isSealed := by
  rw [countTry]
  split <;> rfl

@[simp] theorem retained_decide (r : Reservoir E) (random : Float) :
    (r.decide random).2.retained = r.retained := rfl

@[simp] theorem shell_decide (r : Reservoir E) (random : Float) :
    (r.decide random).2.shell = r.shell := rfl

@[simp] theorem isSealed_decide (r : Reservoir E) (random : Float) :
    (r.decide random).2.isSealed = r.isSealed := rfl

@[simp] theorem tries_decide (r : Reservoir E) (random : Float) :
    (r.decide random).2.tries = r.tries := rfl

/-! ### Merging -/

@[simp] theorem retained_drained (r : Reservoir E) : r.drained.retained = 0 := rfl

@[simp] theorem retained_clear (r : Reservoir E) : r.clear.retained = 0 := rfl

@[simp] theorem retained_sealed (r : Reservoir E) : r.sealed.retained = r.retained := rfl

@[simp] theorem shell_drained (r : Reservoir E) : r.drained.shell = r.shell := rfl

@[simp] theorem shell_clear (r : Reservoir E) : r.clear.shell = r.shell := rfl

@[simp] theorem shell_sealed (r : Reservoir E) : r.sealed.shell = r.shell := rfl

@[simp] theorem shell_insertAll (r : Reservoir E) (entries : List (Entry E)) :
    (r.insertAll entries).shell = r.shell := by
  induction entries generalizing r with
  | nil => rfl
  | cons e rest ih => exact (ih _).trans (shell_insert r e.priority e.event)

@[simp] theorem tries_insertAll (r : Reservoir E) (entries : List (Entry E)) :
    (r.insertAll entries).tries = r.tries := by
  induction entries generalizing r with
  | nil => rfl
  | cons e rest ih => exact (ih _).trans (tries_insert r e.priority e.event)

@[simp] theorem isSealed_insertAll (r : Reservoir E) (entries : List (Entry E)) :
    (r.insertAll entries).isSealed = r.isSealed := by
  induction entries generalizing r with
  | nil => rfl
  | cons e rest ih => exact (ih _).trans (isSealed_insert r e.priority e.event)

/-- Inserting several entries drops nothing as long as there is room for all. -/
theorem retained_insertAll (r : Reservoir E) (entries : List (Entry E)) :
    ∃ lost, (r.insertAll entries).retained + lost =
        r.retained + (entries.map (·.event) : List E) ∧
      (r.size + entries.length ≤ r.capacity → lost = 0) := by
  induction entries generalizing r with
  | nil => exact ⟨0, by simp [insertAll], fun _ => rfl⟩
  | cons e rest ih =>
    obtain ⟨lost, hlost, hroom⟩ := r.retained_insert e.priority e.event
    obtain ⟨lost', hlost', hroom'⟩ := ih (r.insert e.priority e.event).2
    refine ⟨lost + lost', ?_, fun h => ?_⟩
    · change ((r.insert e.priority e.event).2.insertAll rest).retained + (lost + lost') = _
      calc ((r.insert e.priority e.event).2.insertAll rest).retained + (lost + lost')
          = ((r.insert e.priority e.event).2.insertAll rest).retained + lost' + lost := by abel
        _ = (r.insert e.priority e.event).2.retained + lost + (rest.map (·.event) : List E) := by
          rw [hlost']
          abel
        _ = r.retained + ((e :: rest).map (·.event) : List E) := by
          rw [hlost, List.map_cons, ← Multiset.cons_coe, Multiset.cons_add, Multiset.add_cons]
    · rw [List.length_cons] at h
      have h0 := hroom (by omega)
      subst h0
      have hsize : (r.insert e.priority e.event).2.size = r.size + 1 := by
        rw [← card_retained, ← card_retained r, ← Multiset.card_cons e.event, ← hlost,
          Multiset.add_zero]
      have hcap : (r.insert e.priority e.event).2.capacity = r.capacity :=
        congrArg (·.2.2.1) (shell_insert r e.priority e.event)
      rw [hroom' (by omega), Multiset.add_zero]

@[simp] theorem shell_merge (r other : Reservoir E) : (r.merge other).shell = r.shell :=
  shell_insertAll _ _

@[simp] theorem tries_merge (r other : Reservoir E) :
    (r.merge other).tries = r.tries + other.tries :=
  tries_insertAll _ _

@[simp] theorem isSealed_merge (r other : Reservoir E) : (r.merge other).isSealed = r.isSealed :=
  isSealed_insertAll _ _

/-- **Merging** joins both contents, and drops nothing as long as there is room. -/
theorem retained_merge (r other : Reservoir E) :
    ∃ lost, (r.merge other).retained + lost = r.retained + other.retained ∧
      (r.size + other.size ≤ r.capacity → lost = 0) :=
  retained_insertAll { r with tries := r.tries + other.tries } other.heap.toList

end Telemetry.Sampling.Reservoir
