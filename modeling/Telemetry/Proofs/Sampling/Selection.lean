import Telemetry.Proofs.Sampling.Reservoir
import Mathlib.Data.Multiset.Sort

/-!
# A reservoir selects the highest priorities

Of the priorities that were ever offered to a reservoir, it retains the highest, as many as its
capacity says. `Selects M s t` is the relation behind this: `t` are `M` greatest elements of `s`,
or all of them if there are fewer. What is left out is not looked at again, and yet the
selection of a union is right, because selecting composes:

| move | lemma |
|---|---|
| an element joins while there is room | `Selects.cons` |
| an element replaces a lowest one that it is not below | `Selects.replace` |
| an element that is not above any selected one is left out | `Selects.reject` |
| a selection is selected from, together with others | `Selects.merge` |

The elements are the levels of priorities, the numbers that they stand for. That a reservoir
evicts a lowest level is where the order of its heap comes in: the entry in front leaves first
(`Entry.outlasts`), and no level is below the one in front. `Reservoir.Summarises`
says that a reservoir retains a selection of given levels and has counted them all as tries.
-/

namespace Telemetry.Sampling

/-! ### Selections -/

section Selections

variable {α : Type} [LinearOrder α] {M : Nat} {s s' t t' u : Multiset α} {x : α}

/-- **The selection of the `M` greatest**: nothing that is left out is above anything selected,
and nothing is left out unless `M` are selected. -/
def Selects (M : Nat) (s t : Multiset α) : Prop :=
  ∃ rest, s = t + rest ∧ (∀ x ∈ t, ∀ y ∈ rest, y ≤ x) ∧ t.card ≤ M ∧ (rest = 0 ∨ t.card = M)

theorem selects_zero (M : Nat) : Selects M (0 : Multiset α) 0 :=
  ⟨0, rfl, fun x hx => absurd hx (Multiset.notMem_zero x), Nat.zero_le M, .inl rfl⟩

/-- While there is room, everything is selected. -/
theorem Selects.cons (h : Selects M s t) (hroom : t.card < M) (x : α) :
    Selects M (x ::ₘ s) (x ::ₘ t) := by
  obtain ⟨rest, rfl, -, -, hrest⟩ := h
  have hnone : rest = 0 := hrest.resolve_right (Nat.ne_of_lt hroom)
  subst hnone
  refine ⟨0, by rw [Multiset.add_zero, Multiset.add_zero], ?_, ?_, .inl rfl⟩
  · exact fun y hy z hz => absurd hz (Multiset.notMem_zero z)
  · rw [Multiset.card_cons]
    exact hroom

/-- An element takes the place of a lowest one that it is not below. -/
theorem Selects.replace {low : α} (h : Selects M s (low ::ₘ t)) (hlow : ∀ y ∈ t, low ≤ y)
    (hx : low ≤ x) (hfull : (low ::ₘ t).card = M) : Selects M (x ::ₘ s) (x ::ₘ t) := by
  obtain ⟨rest, rfl, hle, hcard, -⟩ := h
  have hsame : (x ::ₘ t).card = (low ::ₘ t).card := by
    rw [Multiset.card_cons, Multiset.card_cons]
  refine ⟨low ::ₘ rest, ?_, ?_, hsame ▸ hcard, .inr (hsame.trans hfull)⟩
  · rw [Multiset.cons_add, Multiset.cons_add, Multiset.add_cons]
  · -- the element that left is not above the others, and neither is what was left out before
    intro y hy z hz
    have hylow : low ≤ y := by
      rcases Multiset.mem_cons.1 hy with rfl | hy
      · exact hx
      · exact hlow y hy
    rcases Multiset.mem_cons.1 hz with rfl | hz
    · exact hylow
    · exact (hle low (Multiset.mem_cons_self low t) z hz).trans hylow

/-- An element that is not above any selected one is left out. -/
theorem Selects.reject (h : Selects M s t) (hfull : t.card = M) (hx : ∀ y ∈ t, x ≤ y) :
    Selects M (x ::ₘ s) t := by
  obtain ⟨rest, rfl, hle, hcard, -⟩ := h
  refine ⟨x ::ₘ rest, by rw [Multiset.add_cons], ?_, hcard, .inr hfull⟩
  intro y hy z hz
  rcases Multiset.mem_cons.1 hz with rfl | hz
  · exact hx y hy
  · exact hle y hy z hz

/-- **Selecting composes**: of a union, one part may be replaced by a selection of it. -/
theorem Selects.merge (h' : Selects M s' t') (h : Selects M (s + t') u) : Selects M (s + s') u := by
  obtain ⟨rest', rfl, hle', hcard', hrest'⟩ := h'
  obtain ⟨rest, hsum, hle, hcard, hrest⟩ := h
  have hall : s + (t' + rest') = u + (rest + rest') := by
    rw [← Multiset.add_assoc, hsum, Multiset.add_assoc]
  rcases hrest' with rfl | hfull'
  · exact ⟨rest + 0, hall, by rwa [Multiset.add_zero], hcard, by rwa [Multiset.add_zero]⟩
  · have hfull : u.card = M := by
      rcases hrest with rfl | hfull
      · have hle : t'.card ≤ u.card := by
          rw [Multiset.add_zero] at hsum
          exact Multiset.card_le_card (hsum ▸ Multiset.le_add_left t' s)
        omega
      · exact hfull
    refine ⟨rest + rest', hall, fun x hx y hy => ?_, hcard, .inr hfull⟩
    rcases Multiset.mem_add.1 hy with hy | hy
    · exact hle x hx y hy
    · -- were `y` above `x`, all of `t'` would be selected, and `x` on top of that
      by_contra hlt
      have habove : ∀ z ∈ t', x < z := fun z hz => (not_le.1 hlt).trans_le (hle' z hz y hy)
      have hselected : t' ≤ u.filter (x < ·) := by
        have hleft : rest.filter (x < ·) = 0 :=
          Multiset.filter_eq_nil.2 fun z hz => not_lt.2 (hle x hx z hz)
        rw [← Multiset.add_zero (u.filter _), ← hleft, ← Multiset.filter_add, ← hsum]
        exact Multiset.le_filter.2 ⟨Multiset.le_add_left t' s, habove⟩
      have hmore : (u.filter (x < ·)).card < u.card :=
        Multiset.card_lt_card (lt_of_le_of_ne (Multiset.filter_le _ u) fun heq =>
          lt_irrefl x (Multiset.filter_eq_self.1 heq x hx))
      have hcards := Multiset.card_le_card hselected
      omega

/-- The elements in descending order. -/
def descending (s : Multiset α) : List α := s.sort (· ≥ ·)

/-- The `M` greatest elements, in descending order. -/
def highest (M : Nat) (s : Multiset α) : List α := (descending s).take M

@[simp] theorem coe_descending (s : Multiset α) : (descending s : Multiset α) = s :=
  Multiset.sort_eq _ _

theorem mem_descending : x ∈ descending s ↔ x ∈ s := Multiset.mem_sort _

@[simp] theorem length_descending (s : Multiset α) : (descending s).length = s.card :=
  Multiset.length_sort _

theorem pairwise_descending (s : Multiset α) : (descending s).Pairwise (· ≥ ·) :=
  Multiset.pairwise_sort _ _

/-- A list in descending order is what sorting makes of it. -/
theorem descending_coe {l : List α} (h : l.Pairwise (· ≥ ·)) : descending (l : Multiset α) = l :=
  List.Perm.eq_of_pairwise (fun _ _ _ _ hle hge => le_antisymm hge hle) (pairwise_descending _) h
    (Multiset.coe_eq_coe.1 (coe_descending _))

/-- **There is only one selection.** -/
theorem Selects.descending_eq (h : Selects M s t) : descending t = highest M s := by
  obtain ⟨rest, rfl, hle, hcard, hrest⟩ := h
  have hsorted : (descending t ++ descending rest).Pairwise (· ≥ ·) := by
    refine List.pairwise_append.2 ⟨pairwise_descending t, pairwise_descending rest, ?_⟩
    exact fun x hx y hy => hle x (mem_descending.1 hx) y (mem_descending.1 hy)
  have happend : descending (t + rest) = descending t ++ descending rest := by
    rw [← descending_coe hsorted, ← Multiset.coe_add, coe_descending, coe_descending]
  -- the selection comes first, so it is what is taken
  rw [highest, happend]
  rcases hrest with rfl | hfull
  · have hnil : descending (0 : Multiset α) = [] := Multiset.sort_zero _
    rw [hnil, List.append_nil, List.take_of_length_le]
    rwa [length_descending]
  · rw [List.take_left']
    rwa [length_descending]

/-- Nothing is selected of nothing only. -/
theorem Selects.eq_zero (h : Selects M s 0) (hM : 0 < M) : s = 0 := by
  obtain ⟨rest, rfl, -, -, hrest⟩ := h
  rcases hrest with rfl | hfull
  · rfl
  · exact absurd hfull (Nat.ne_of_lt hM)

end Selections

/-! ### The lowest level stands in front -/

variable {E : Type}

/-- The level of the priority that an entry is retained for. -/
def Entry.level (e : Entry E) : Int := Double.level e.priority

theorem Entry.outlasts_trans (a b c : Entry E) :
    a.outlasts b → b.outlasts c → a.outlasts c := by
  simp only [outlasts, decide_eq_true_eq]
  omega

theorem Entry.outlasts_total (a b : Entry E) : a.outlasts b ∨ b.outlasts a := by
  simp only [outlasts, decide_eq_true_eq]
  omega

theorem Entry.outlasts_refl (a : Entry E) : a.outlasts a :=
  (outlasts_total a a).elim id id

/-- What outlasts an entry is not below it. -/
theorem Entry.level_le {a b : Entry E} (h : a.outlasts b) : b.level ≤ a.level := by
  refine Double.level_le_of_rank_le ?_
  simp only [outlasts, decide_eq_true_eq] at h
  omega

namespace Reservoir

/-- The levels of what is retained. -/
def levels (r : Reservoir E) : Multiset Int := (r.heap.toList.map Entry.level : List Int)

@[simp] theorem card_levels (r : Reservoir E) : r.levels.card = r.size := by
  simp [levels, size]

theorem levels_append (r : Reservoir E) (priority : Float) (event : E) :
    (r.append priority event).levels = Double.level priority ::ₘ r.levels :=
  Multiset.coe_eq_coe.2 ((Heap.push_perm r.heap ⟨priority, r.nextSeq, event⟩).map _)

/-- A reservoir of capacity `M` whose heap is in order, and that retains each event for the
priority it carries. -/
structure IsOrderly [HasPriority E] (M : Nat) (r : Reservoir E) : Prop where
  capacity : r.capacity = M
  ordered : Heap.IsOrdered Entry.outlasts r.heap
  carried : ∀ e ∈ r.heap.toList, e.priority = HasPriority.priority e.event

section Orderly

variable [HasPriority E] {M : Nat} {r : Reservoir E} {priority low : Float} {event : E}

theorem IsOrderly.append (h : r.IsOrderly M) (hcarried : priority = HasPriority.priority event) :
    (r.append priority event).IsOrderly M where
  capacity := h.capacity
  ordered := Heap.IsOrdered.push Entry.outlasts_trans Entry.outlasts_total h.ordered _
  carried e he := by
    have hperm : (r.append priority event).heap.toList.Perm
        (⟨priority, r.nextSeq, event⟩ :: r.heap.toList) := Heap.push_perm _ _
    rcases List.mem_cons.1 (hperm.mem_iff.1 he) with rfl | he
    · exact hcarried
    · exact h.carried e he

/-- The lowest priority is that of a lowest level. -/
theorem IsOrderly.le_levels (h : r.IsOrderly M) (hlow : r.minPriority? = some low) :
    ∀ y ∈ r.levels, Double.level low ≤ y := by
  intro y hy
  obtain ⟨e, he, rfl⟩ := List.mem_map.1 (Multiset.mem_coe.1 hy)
  obtain ⟨i, hi, rfl⟩ := Array.mem_iff_getElem.1 (Array.mem_toList_iff.1 he)
  have hpos : 0 < r.heap.size := Nat.lt_of_le_of_lt (Nat.zero_le i) hi
  have hfront :=
    Heap.IsOrdered.le_front Entry.outlasts_trans Entry.outlasts_refl h.ordered i hi hpos
  rw [minPriority?, Array.getElem?_eq_getElem hpos] at hlow
  obtain rfl := Option.some.inj hlow
  exact Entry.level_le hfront

omit [HasPriority E] in
theorem size_pos_of_minPriority? (hlow : r.minPriority? = some low) : 0 < r.heap.size := by
  by_contra hzero
  rw [minPriority?, Array.getElem?_eq_none (Nat.not_lt.1 hzero)] at hlow
  nomatch hlow

/-- **Evicting** takes a lowest level away. -/
theorem IsOrderly.evict (h : r.IsOrderly M) (hlow : r.minPriority? = some low) :
    r.evict.IsOrderly M ∧ r.levels = Double.level low ::ₘ r.evict.levels := by
  have hsome : (Heap.pop? Entry.outlasts r.heap).isSome :=
    Heap.pop?_isSome (size_pos_of_minPriority? hlow)
  obtain ⟨⟨top, rest⟩, hpop⟩ := Option.isSome_iff_exists.1 hsome
  obtain ⟨hperm, hfront⟩ := Heap.pop?_perm hpop
  have hevict : r.evict = { r with heap := rest } := by
    rw [Reservoir.evict, hpop]
  rw [minPriority?, hfront] at hlow
  obtain rfl := Option.some.inj hlow
  rw [hevict]
  refine ⟨⟨h.capacity, h.ordered.pop? Entry.outlasts_trans Entry.outlasts_total hpop,
    fun e he => ?_⟩, Multiset.coe_eq_coe.2 (hperm.map _)⟩
  exact h.carried e (hperm.mem_iff.2 (List.mem_cons_of_mem top he))

/-- A level that does not outrank the lowest one is not above any. -/
theorem IsOrderly.le_of_not_outranksLowest (h : r.IsOrderly M)
    (hlow : r.outranksLowest priority = false) : ∀ y ∈ r.levels, Double.level priority ≤ y := by
  intro y hy
  cases hmin : r.minPriority? with
  | none =>
    -- without a lowest priority there are no levels
    rw [minPriority?, Option.map_eq_none_iff, Array.getElem?_eq_none_iff] at hmin
    have hcard := r.card_levels
    have hpos : 0 < r.levels.card := Multiset.card_pos_iff_exists_mem.2 ⟨y, hy⟩
    rw [hcard] at hpos
    exact absurd hpos (Nat.not_lt.2 hmin)
  | some low =>
    rw [outranksLowest, hmin] at hlow
    simp only [Option.any_some, decide_eq_false_iff_not, not_lt] at hlow
    exact hlow.trans (h.le_levels hmin y hy)

/-- **The batch of an orderly reservoir** has its levels in descending order. -/
theorem IsOrderly.map_toList (h : r.IsOrderly M) :
    r.toList.map (fun event => Double.level (HasPriority.priority event)) =
      descending r.levels := by
  have hcarried : r.toList.map (fun event => Double.level (HasPriority.priority event)) =
      r.entries.map Entry.level := by
    rw [toList, List.map_map]
    refine List.map_congr_left fun e he => ?_
    rw [Entry.level, h.carried e ((List.mergeSort_perm _ _).mem_iff.1 he)]
    rfl
  have hsorted : (r.entries.map Entry.level).Pairwise (· ≥ ·) := by
    -- the entries are sorted by what outlasts what, which sorts their levels
    refine List.pairwise_map.2 (List.Pairwise.imp (fun hle => Entry.level_le hle) ?_)
    exact List.pairwise_mergeSort Entry.outlasts_trans
      (fun a b => Bool.or_eq_true_iff.2 (Entry.outlasts_total a b)) r.heap.toList
  have hlevels : r.levels = (r.entries.map Entry.level : List Int) :=
    Multiset.coe_eq_coe.2 ((List.mergeSort_perm _ _).symm.map _)
  rw [hcarried, hlevels, descending_coe hsorted]

end Orderly

/-! ### What a reservoir stands for -/

section Retention

variable [HasPriority E] {M : Nat} {offered offered' : Multiset Int} {r other : Reservoir E}
  {priority : Float} {event : E}

/-- The reservoir retains a selection of the levels that were offered. -/
structure Retains (M : Nat) (offered : Multiset Int) (r : Reservoir E) : Prop
    extends r.IsOrderly M where
  selects : Selects M offered r.levels

/-- **The reservoir stands for the levels that were offered**: it retains a selection of them,
and has counted them all. -/
structure Summarises (M : Nat) (offered : Multiset Int) (r : Reservoir E) : Prop
    extends r.Retains M offered where
  tries : r.tries = offered.card

theorem summarises_empty (app service : String) (M decidedLast target : Nat) :
    (empty app service M decidedLast target : Reservoir E).Summarises M 0 :=
  ⟨⟨⟨rfl, Heap.isOrdered_empty, fun _ he => absurd he List.not_mem_nil⟩, selects_zero M⟩, rfl⟩

theorem Retains.card_eq (h : r.Retains M offered) (hfull : r.isFull) : r.levels.card = M := by
  obtain ⟨rest, -, -, hle, -⟩ := h.selects
  have hge : r.capacity ≤ r.size := by simpa [isFull] using hfull
  rw [h.capacity, ← card_levels] at hge
  exact Nat.le_antisymm hle hge

/-- **Inserting** an event offers its level. -/
theorem Retains.insert (h : r.Retains M offered)
    (hcarried : priority = HasPriority.priority event) :
    (r.insert priority event).2.Retains M (Double.level priority ::ₘ offered) := by
  rw [Reservoir.insert]
  split
  next hfull =>
    have hcard := h.card_eq hfull
    split
    next hhigh =>
      -- the event takes the place of the one in front
      obtain ⟨low, hlow, hlt⟩ := (Option.any_eq_true _ _).1 hhigh
      rw [decide_eq_true_eq] at hlt
      obtain ⟨hevicted, hlevels⟩ := h.toIsOrderly.evict hlow
      have hbelow := h.toIsOrderly.le_levels hlow
      have hselects := h.selects
      rw [hlevels] at hselects hcard hbelow
      refine ⟨hevicted.append hcarried, ?_⟩
      rw [levels_append]
      exact hselects.replace (fun y hy => hbelow y (Multiset.mem_cons_of_mem hy)) hlt.le hcard
    next hlow =>
      exact ⟨h.toIsOrderly, h.selects.reject hcard
        (h.toIsOrderly.le_of_not_outranksLowest (eq_false_of_ne_true hlow))⟩
  next hroom =>
    have hlt : r.levels.card < M := by
      have hlt : r.size < r.capacity := by simpa [isFull] using hroom
      rwa [h.capacity, ← card_levels] at hlt
    refine ⟨h.toIsOrderly.append hcarried, ?_⟩
    rw [levels_append]
    exact h.selects.cons hlt _

theorem Retains.insertAll (h : r.Retains M offered) {entries : List (Entry E)}
    (hcarried : ∀ e ∈ entries, e.priority = HasPriority.priority e.event) :
    (r.insertAll entries).Retains M (offered + (entries.map Entry.level : List Int)) := by
  induction entries generalizing r offered with
  | nil => rwa [List.map_nil, Multiset.coe_nil, Multiset.add_zero]
  | cons e rest ih =>
    have hnext := ih (h.insert (hcarried e List.mem_cons_self))
      fun e' he' => hcarried e' (List.mem_cons_of_mem e he')
    rwa [Multiset.cons_add, ← Multiset.add_cons, Multiset.cons_coe] at hnext

/-- A try is counted for a level that would not be accepted. -/
theorem Summarises.tried (h : r.Summarises M offered) (hnumber : Double.isNumber priority)
    (hwould : r.wouldAccept priority = false) :
    r.tried.Summarises M (Double.level priority ::ₘ offered) := by
  rw [wouldAccept, hnumber, Bool.true_and, Bool.or_eq_false_iff, Bool.not_eq_false'] at hwould
  have hcard := h.card_eq hwould.1
  refine ⟨⟨⟨h.capacity, h.ordered, h.carried⟩, ?_⟩, ?_⟩
  · exact h.selects.reject hcard (h.toIsOrderly.le_of_not_outranksLowest hwould.2)
  · rw [tries_tried, h.tries, Multiset.card_cons]

/-- **An offer** of a number to a reservoir that is open. -/
theorem Summarises.offer (h : r.Summarises M offered) (hopen : r.isSealed = false)
    (hnumber : Double.isNumber priority) (hcarried : priority = HasPriority.priority event) :
    (r.offer priority event).2.Summarises M (Double.level priority ::ₘ offered) := by
  have htried : r.tried.Retains M offered := ⟨⟨h.capacity, h.ordered, h.carried⟩, h.selects⟩
  rw [offer_of_isNumber hopen hnumber]
  refine ⟨htried.insert hcarried, ?_⟩
  rw [tries_insert, tries_tried, h.tries, Multiset.card_cons]

/-- **A merge** stands for what both stood for. -/
theorem Summarises.merge (h : r.Summarises M offered) (hother : other.Summarises M offered') :
    (r.merge other).Summarises M (offered + offered') := by
  have hsum : Retains M offered { r with tries := r.tries + other.tries } :=
    ⟨⟨h.capacity, h.ordered, h.carried⟩, h.selects⟩
  -- the other reservoir is a selection already, and selecting composes
  have hall := hsum.insertAll hother.carried
  refine ⟨⟨hall.toIsOrderly, hother.selects.merge hall.selects⟩, ?_⟩
  rw [tries_merge, h.tries, hother.tries, Multiset.card_add]

theorem Summarises.sealed (h : r.Summarises M offered) : r.sealed.Summarises M offered :=
  ⟨⟨⟨h.capacity, h.ordered, h.carried⟩, h.selects⟩, h.tries⟩

/-- **What is sent of a reservoir**: the highest levels of those it stands for. -/
theorem Summarises.map_toList (h : r.Summarises M offered) :
    r.toList.map (fun event => Double.level (HasPriority.priority event)) = highest M offered := by
  rw [h.toIsOrderly.map_toList, h.selects.descending_eq]

/-- An empty reservoir stands for nothing. -/
theorem Summarises.eq_zero (h : r.Summarises M offered) (hM : 0 < M) (hempty : r.isEmpty) :
    offered = 0 := by
  have hnone : r.levels = 0 := by
    rw [← Multiset.card_eq_zero, card_levels]
    simpa [isEmpty] using hempty
  have hselects := h.selects
  rw [hnone] at hselects
  exact hselects.eq_zero hM

end Retention

end Reservoir

end Telemetry.Sampling
