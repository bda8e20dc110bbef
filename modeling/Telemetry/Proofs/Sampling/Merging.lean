import Telemetry.Proofs.Double.Comparison
import Telemetry.Proofs.Sampling.Fleet
import Telemetry.Simulation.Event

/-!
# The law of merging

Merging inserts the events of one reservoir into another, in an order that means nothing: that
of a heap array. Of all the events, those that stay are told apart from those that are dropped
(`Reservoir.IsApportioned`):

* no dropped event is above one that stays;
* and of events with the very same priority, those that were there before are not dropped in
  favour of those that come in.

The first says which numbers stay, so these do not depend on the array, nor on the order in which
several reservoirs are merged into one (`Reservoir.levels_merge_perm`, `levels_merge_comm`).

The second cannot be seen from the numbers. It needs to know who was there before, and the
sequence numbers tell: the events that come in are given new ones. `Reservoir.IsParted` keeps the
account during the merge. An event that was there before is only evicted by a higher one, at a
time when no event of its own priority has come in yet – it would have left first – and none comes
in later, because by then it would have to be higher than what was evicted.
-/

namespace Telemetry.Sampling

namespace Reservoir

variable {E : Type}

/-- The retained entries, in no order. -/
def held (r : Reservoir E) : Multiset (Entry E) := (r.heap.toList : List (Entry E))

theorem map_held (r : Reservoir E) : r.held.map (·.event) = r.retained := rfl

theorem held_append (r : Reservoir E) (priority : Float) (event : E) :
    (r.append priority event).held = ⟨priority, r.nextSeq, event⟩ ::ₘ r.held :=
  Multiset.coe_eq_coe.2 (append_perm r priority event)

section Merging

variable [HasPriority E] {a r : Reservoir E} {given : Multiset E}

theorem IsArranged.isNumber_retained (h : r.IsArranged) {event : E} (hevent : event ∈ r.retained) :
    Double.isNumber (HasPriority.priority event) := by
  obtain ⟨e, he, rfl⟩ := Multiset.mem_map.1 (r.map_held ▸ hevent)
  exact h.carried e he ▸ h.isNumber e he

/-- **Evicting**, entry by entry: no retained entry leaves before the one that is evicted. -/
theorem IsArranged.exists_evicted (h : r.IsArranged) {priority : Float}
    (hhigh : r.outranksLowest priority) :
    ∃ front, r.held = front ::ₘ r.evict.held ∧ front.level < Double.level priority ∧
      ∀ e ∈ r.held, e.outlasts front := by
  obtain ⟨front, hfront, hperm⟩ := exists_front (size_pos_of_outranksLowest hhigh)
  refine ⟨front, Multiset.coe_eq_coe.2 hperm, ?_, fun e he => h.outlasts_front hfront he⟩
  rw [outranksLowest, minPriority?, hfront] at hhigh
  exact of_decide_eq_true hhigh

/-! ### The account of a merge -/

/-- **The account of a merge** into `a`, when the events `given` have been inserted. The entries
that `a` has kept and those that have joined are told apart by their sequence numbers; the events
that `a` has lost and those that were refused are gone. -/
structure IsParted (a : Reservoir E) (given : Multiset E) (kept joined : Multiset (Entry E))
    (lost refused : Multiset E) (r : Reservoir E) : Prop where
  arranged : r.IsArranged
  held : r.held = kept + joined
  own : kept.map (·.event) + lost = a.retained
  given : joined.map (·.event) + refused = given
  older : ∀ e ∈ kept, e.seq < a.nextSeq
  newer : ∀ e ∈ joined, a.nextSeq ≤ e.seq
  nextSeq : a.nextSeq ≤ r.nextSeq
  /-- What is gone is not above what is retained. -/
  below : ∀ d ∈ lost + refused, ∀ e ∈ r.held, Double.level (HasPriority.priority d) ≤ e.level
  /-- What `a` has lost is of no priority of what has joined. -/
  apart : ∀ d ∈ lost, ∀ e ∈ joined,
    Double.rank (HasPriority.priority d) ≠ Double.rank e.priority

theorem isParted_start (h : r.IsArranged) (hheap : r.heap = a.heap)
    (hseq : r.nextSeq = a.nextSeq) : a.IsParted 0 a.held 0 0 0 r where
  arranged := h
  held := by rw [Multiset.add_zero, Reservoir.held, hheap, Reservoir.held]
  own := Multiset.add_zero _
  given := rfl
  older e he := hseq ▸ h.seq_lt e (hheap ▸ he)
  newer e he := absurd he (Multiset.notMem_zero e)
  nextSeq := hseq.ge
  below d hd := absurd hd (Multiset.notMem_zero d)
  apart d hd := absurd hd (Multiset.notMem_zero d)

variable {kept joined : Multiset (Entry E)} {lost refused : Multiset E} {event : E}

/-- **An event joins** that is above what is gone. -/
theorem IsParted.append (h : a.IsParted given kept joined lost refused r)
    (hroom : r.size < r.capacity) (hnumber : Double.isNumber (HasPriority.priority event))
    (habove : ∀ d ∈ lost + refused,
      Double.level (HasPriority.priority d) < Double.level (HasPriority.priority event)) :
    a.IsParted (event ::ₘ given) kept (⟨HasPriority.priority event, r.nextSeq, event⟩ ::ₘ joined)
      lost refused (r.append (HasPriority.priority event) event) where
  arranged := h.arranged.append hroom rfl hnumber
  held := by rw [held_append, h.held, Multiset.add_cons]
  own := h.own
  given := by rw [Multiset.map_cons, Multiset.cons_add, h.given]
  older := h.older
  newer e he := by
    rcases Multiset.mem_cons.1 he with rfl | he
    · exact h.nextSeq
    · exact h.newer e he
  nextSeq := Nat.le_succ_of_le h.nextSeq
  below d hd e he := by
    rw [held_append] at he
    rcases Multiset.mem_cons.1 he with rfl | he
    · exact (habove d hd).le
    · exact h.below d hd e he
  apart d hd e he := by
    rcases Multiset.mem_cons.1 he with rfl | he
    · exact (Double.rank_lt_of_level_lt (habove d (Multiset.mem_add.2 (.inl hd)))).ne
    · exact h.apart d hd e he

/-- **An event is refused** that is not above what is retained. -/
theorem IsParted.refuse (h : a.IsParted given kept joined lost refused r)
    (hlow : r.outranksLowest (HasPriority.priority event) = false) :
    a.IsParted (event ::ₘ given) kept joined lost (event ::ₘ refused) r where
  arranged := h.arranged
  held := h.held
  own := h.own
  given := by rw [Multiset.add_cons, h.given]
  older := h.older
  newer := h.newer
  nextSeq := h.nextSeq
  below d hd e he := by
    rw [Multiset.add_cons] at hd
    rcases Multiset.mem_cons.1 hd with rfl | hd
    · exact h.arranged.isOrderly.le_of_not_outranksLowest hlow e.level (Multiset.mem_map_of_mem _ he)
    · exact h.below d hd e he
  apart := h.apart

section Evicting

variable {front : Entry E}

theorem IsParted.carried (h : a.IsParted given kept joined lost refused r)
    (hheld : r.held = front ::ₘ r.evict.held) :
    front.priority = HasPriority.priority front.event := by
  have hfront : front ∈ r.held := hheld ▸ Multiset.mem_cons_self front _
  exact h.arranged.carried front hfront

/-- What an eviction leaves is not below what is gone then. -/
theorem IsParted.below_evict (h : a.IsParted given kept joined lost refused r)
    (hheld : r.held = front ::ₘ r.evict.held) (hlast : ∀ e ∈ r.held, e.outlasts front) :
    ∀ d ∈ front.event ::ₘ (lost + refused), ∀ e ∈ r.evict.held,
      Double.level (HasPriority.priority d) ≤ e.level := by
  intro d hd e he
  have he' : e ∈ r.held := hheld ▸ Multiset.mem_cons_of_mem he
  rcases Multiset.mem_cons.1 hd with rfl | hd
  · exact h.carried hheld ▸ Entry.level_le (hlast e he')
  · exact h.below d hd e he'

/-- **`a` loses the entry in front**: nothing of its priority has joined. -/
theorem IsParted.evict_kept (h : a.IsParted given (front ::ₘ kept) joined lost refused r)
    (hpos : 0 < r.size) (hheld : r.held = front ::ₘ r.evict.held)
    (hlast : ∀ e ∈ r.held, e.outlasts front) :
    a.IsParted given kept joined (front.event ::ₘ lost) refused r.evict where
  arranged := h.arranged.evict hpos
  held := by rwa [h.held, Multiset.cons_add, Multiset.cons_inj_right, eq_comm] at hheld
  own := by rw [← h.own, Multiset.map_cons, Multiset.add_cons, Multiset.cons_add]
  given := h.given
  older e he := h.older e (Multiset.mem_cons_of_mem he)
  newer := h.newer
  nextSeq := (nextSeq_evict r).symm ▸ h.nextSeq
  below := by
    rw [Multiset.cons_add]
    exact h.below_evict hheld hlast
  apart d hd e he := by
    rcases Multiset.mem_cons.1 hd with rfl | hd
    · -- were they of one priority, the younger one would stand in front
      have hseq := h.older front (Multiset.mem_cons_self front kept)
      have hseq' := h.newer e he
      have hout := hlast e (h.held ▸ Multiset.mem_add.2 (.inr he))
      rw [Entry.outlasts_iff] at hout
      rw [← h.carried hheld]
      omega
    · exact h.apart d hd e he

/-- **The entry in front had joined**, and is refused after all. -/
theorem IsParted.evict_joined (h : a.IsParted given kept (front ::ₘ joined) lost refused r)
    (hpos : 0 < r.size) (hheld : r.held = front ::ₘ r.evict.held)
    (hlast : ∀ e ∈ r.held, e.outlasts front) :
    a.IsParted given kept joined lost (front.event ::ₘ refused) r.evict where
  arranged := h.arranged.evict hpos
  held := by rwa [h.held, Multiset.add_cons, Multiset.cons_inj_right, eq_comm] at hheld
  own := h.own
  given := by rw [← h.given, Multiset.map_cons, Multiset.add_cons, Multiset.cons_add]
  older := h.older
  newer e he := h.newer e (Multiset.mem_cons_of_mem he)
  nextSeq := (nextSeq_evict r).symm ▸ h.nextSeq
  below := by
    rw [Multiset.add_cons]
    exact h.below_evict hheld hlast
  apart d hd e he := h.apart d hd e (Multiset.mem_cons_of_mem he)

/-- **The entry in front is evicted**, wherever it is from. -/
theorem IsParted.evict (h : a.IsParted given kept joined lost refused r)
    (hpos : 0 < r.size) (hheld : r.held = front ::ₘ r.evict.held)
    (hlast : ∀ e ∈ r.held, e.outlasts front) :
    ∃ kept joined lost' refused', a.IsParted given kept joined lost' refused' r.evict ∧
      lost' + refused' = front.event ::ₘ (lost + refused) := by
  have hfront : front ∈ kept + joined := h.held ▸ hheld ▸ Multiset.mem_cons_self front _
  rcases Multiset.mem_add.1 hfront with hkept | hjoined
  · obtain ⟨kept, rfl⟩ := Multiset.exists_cons_of_mem hkept
    exact ⟨kept, joined, _, refused, h.evict_kept hpos hheld hlast, Multiset.cons_add _ _ _⟩
  · obtain ⟨joined, rfl⟩ := Multiset.exists_cons_of_mem hjoined
    exact ⟨kept, joined, lost, _, h.evict_joined hpos hheld hlast, Multiset.add_cons _ _ _⟩

end Evicting

/-- **An event takes the place** of the entry in front. -/
theorem IsParted.replace (h : a.IsParted given kept joined lost refused r)
    (hhigh : r.outranksLowest (HasPriority.priority event))
    (hnumber : Double.isNumber (HasPriority.priority event)) :
    ∃ kept joined lost refused, a.IsParted (event ::ₘ given) kept joined lost refused
      (r.evict.append (HasPriority.priority event) event) := by
  obtain ⟨front, hheld, hlow, hlast⟩ := h.arranged.exists_evicted hhigh
  have hpos := size_pos_of_outranksLowest hhigh
  obtain ⟨kept', joined', lost', refused', hevicted, hgone⟩ := h.evict hpos hheld hlast
  have hroom : r.evict.size < r.evict.capacity := by
    have hcapacity := h.arranged.size_le_capacity
    have hsize := size_evict hpos
    rw [capacity_evict]
    omega
  refine ⟨kept', _, lost', refused', hevicted.append hroom hnumber fun d hd => ?_⟩
  -- what is gone is not above what was in front
  have hfront : front ∈ r.held := hheld ▸ Multiset.mem_cons_self front _
  refine lt_of_le_of_lt ?_ hlow
  rw [hgone] at hd
  rcases Multiset.mem_cons.1 hd with rfl | hd
  · exact h.carried hheld ▸ Int.le_refl front.level
  · exact h.below d hd front hfront

/-- Events have been inserted into `a`, and nothing is gone while there is room. -/
def Admits (a : Reservoir E) (given : Multiset E) (r : Reservoir E) : Prop :=
  ∃ kept joined lost refused, a.IsParted given kept joined lost refused r ∧
    (lost + refused = 0 ∨ r.isFull)

/-- **Inserting one event** keeps the account. -/
theorem Admits.insert (h : a.Admits given r)
    (hnumber : Double.isNumber (HasPriority.priority event)) :
    a.Admits (event ::ₘ given) (r.insert (HasPriority.priority event) event).2 := by
  obtain ⟨kept, joined, lost, refused, hparted, hgone⟩ := h
  rw [Reservoir.insert]
  by_cases hfull : r.isFull
  · rw [if_pos hfull]
    split
    next hhigh =>
      obtain ⟨kept', joined', lost', refused', hparted'⟩ := hparted.replace hhigh hnumber
      refine ⟨kept', joined', lost', refused', hparted', .inr ?_⟩
      have hsize := size_evict (size_pos_of_outranksLowest hhigh)
      have hcapacity := capacity_evict r
      rw [isFull, decide_eq_true_iff] at hfull ⊢
      rw [size_append]
      change r.evict.capacity ≤ _
      omega
    next hlow =>
      exact ⟨kept, joined, lost, _, hparted.refuse (eq_false_of_ne_true hlow), .inr hfull⟩
  · have hroom : r.size < r.capacity := by simpa [isFull] using hfull
    have hnone : lost + refused = 0 := hgone.resolve_right hfull
    rw [if_neg hfull]
    refine ⟨kept, _, lost, refused, hparted.append hroom hnumber fun d hd => ?_, .inl hnone⟩
    exact absurd (hnone ▸ hd) (Multiset.notMem_zero d)

theorem Admits.insertAll (h : a.Admits given r) {entries : List (Entry E)}
    (hcarried : ∀ e ∈ entries, e.priority = HasPriority.priority e.event)
    (hnumber : ∀ e ∈ entries, Double.isNumber e.priority) :
    a.Admits (given + (entries.map (·.event) : List E)) (r.insertAll entries) := by
  induction entries generalizing r given with
  | nil => rwa [List.map_nil, Multiset.coe_nil, Multiset.add_zero]
  | cons e rest ih =>
    have hsame := hcarried e List.mem_cons_self
    have hinsert := h.insert (hsame ▸ hnumber e List.mem_cons_self)
    rw [← hsame] at hinsert
    have hrest := ih hinsert (fun e' he' => hcarried e' (List.mem_cons_of_mem e he'))
      fun e' he' => hnumber e' (List.mem_cons_of_mem e he')
    rwa [Multiset.cons_add, ← Multiset.add_cons, Multiset.cons_coe] at hrest

theorem IsArranged.admits_merge {b : Reservoir E} (ha : a.IsArranged) (hb : b.IsArranged) :
    a.Admits b.retained (a.merge b) := by
  have harranged : IsArranged { a with tries := a.tries + b.tries } := ha.of_heap_eq rfl rfl rfl
  have hstart : a.Admits 0 { a with tries := a.tries + b.tries } :=
    ⟨a.held, 0, 0, 0, isParted_start harranged rfl rfl, .inl rfl⟩
  have hall := hstart.insertAll hb.carried hb.isNumber
  rwa [Multiset.zero_add] at hall

/-! ### The law -/

/-- **Whose events are retained** by `a'`, which `a` has become with the events of `b`. Of those of
`a`, some are kept and the others are lost; of those of `b`, some have joined and the others are
refused. What is gone is not above what is retained, and what `a` has lost is of no priority of
what has joined. -/
def IsApportioned (a b a' : Reservoir E) : Prop :=
  ∃ kept lost joined refused : Multiset E,
    a.retained = kept + lost ∧ b.retained = joined + refused ∧ a'.retained = kept + joined ∧
      (∀ d ∈ lost + refused, ∀ e ∈ kept + joined,
        HasPriority.priority d ≤ HasPriority.priority e) ∧
      ∀ d ∈ lost, ∀ e ∈ joined,
        (HasPriority.priority d).toBits ≠ (HasPriority.priority e).toBits

/-- **The law of merging** `b` into `a`, which become `b'` and `a'`. -/
structure IsMerged (a b a' b' : Reservoir E) : Prop where
  tries : a'.tries = a.tries + b.tries
  drained : b'.isEmpty ∧ b'.tries = 0
  decisions : a'.decisions = a.decisions ∧ b'.decisions = b.decisions
  isSealed : a'.isSealed = a.isSealed ∧ b'.isSealed = b.isSealed
  size : a'.size = min a.capacity (a.size + b.size)
  isApportioned : a.IsApportioned b a'

/-- What the account says of the priorities. -/
theorem IsParted.isApportioned {b : Reservoir E} (ha : a.IsArranged) (hb : b.IsArranged)
    (h : a.IsParted b.retained kept joined lost refused r) : a.IsApportioned b r := by
  have hretained : r.retained = kept.map (·.event) + joined.map (·.event) := by
    rw [← map_held, h.held, Multiset.map_add]
  refine ⟨_, lost, _, refused, h.own.symm, h.given.symm, hretained, ?_, ?_⟩
  · intro d hd e he
    obtain ⟨x, hx, rfl⟩ := Multiset.mem_map.1 (r.map_held.trans hretained ▸ he)
    have hgone : Double.isNumber (HasPriority.priority d) := by
      rcases Multiset.mem_add.1 hd with hd | hd
      · exact ha.isNumber_retained (h.own ▸ Multiset.mem_add.2 (.inr hd))
      · exact hb.isNumber_retained (h.given ▸ Multiset.mem_add.2 (.inr hd))
    have hbelow := h.below d hd x hx
    rw [Entry.level, h.arranged.carried x hx] at hbelow
    exact (Double.le_iff_level_le hgone
      (h.arranged.isNumber_retained (hretained ▸ he))).2 hbelow
  · intro d hd e he hbits
    obtain ⟨x, hx, rfl⟩ := Multiset.mem_map.1 he
    have hheld : x ∈ r.held := h.held ▸ Multiset.mem_add.2 (.inr hx)
    have happart := h.apart d hd x hx
    rw [h.arranged.carried x hheld, Double.eq_of_toBits_eq hbits] at happart
    exact happart rfl

/-- **Merging obeys its law.** -/
theorem IsArranged.isMerged {b : Reservoir E} (ha : a.IsArranged) (hb : b.IsArranged) :
    a.IsMerged b (a.merge b) b.drained := by
  obtain ⟨kept, joined, lost, refused, hparted, -⟩ := ha.admits_merge hb
  exact
    { tries := tries_merge a b
      drained := ⟨isEmpty_iff.2 rfl, rfl⟩
      decisions := ⟨decisions_merge a b, rfl⟩
      isSealed := ⟨isSealed_merge a b, rfl⟩
      size := size_merge ha.size_le_capacity b
      isApportioned := hparted.isApportioned ha hb }

/-! ### What the numbers tell -/

theorem IsArranged.retains (h : r.IsArranged) : r.Retains r.capacity r.levels where
  toIsOrderly := h.isOrderly
  selects := ⟨0, (Multiset.add_zero _).symm, fun _ _ y hy => absurd hy (Multiset.notMem_zero y),
    r.card_levels ▸ h.size_le_capacity, .inl rfl⟩

theorem Retains.merge {M : Nat} {offered : Multiset Int} (h : r.Retains M offered)
    (ha : a.IsArranged) : (r.merge a).Retains M (offered + a.levels) :=
  insertAll (r := { r with tries := r.tries + a.tries })
    ⟨⟨h.capacity, h.ordered, h.carried⟩, h.selects⟩ ha.carried

/-- Reservoirs that retain of the same retain the same. -/
theorem Retains.levels_eq {M : Nat} {offered : Multiset Int} (h : r.Retains M offered)
    (ha : a.Retains M offered) : r.levels = a.levels := by
  rw [← coe_descending r.levels, h.selects.descending_eq, ← ha.selects.descending_eq,
    coe_descending]

/-- **The order of the array does not matter** from which events are merged. -/
theorem levels_merge_perm {b c : Reservoir E} (ha : a.IsArranged) (hb : b.IsArranged)
    (hperm : c.heap.toList.Perm b.heap.toList) : (a.merge c).levels = (a.merge b).levels := by
  have hlevels : c.levels = b.levels := Multiset.coe_eq_coe.2 (hperm.map _)
  have hc : (a.merge c).Retains a.capacity (a.levels + b.levels) := by
    rw [← hlevels]
    exact Retains.insertAll (r := { a with tries := a.tries + c.tries })
      ⟨⟨rfl, ha.ordered, ha.carried⟩, ha.retains.selects⟩
      fun e he => hb.carried e (hperm.mem_iff.1 he)
  exact hc.levels_eq (ha.retains.merge hb)

/-- **The order of two merges does not matter** either. -/
theorem levels_merge_comm {b c : Reservoir E} (ha : a.IsArranged) (hb : b.IsArranged)
    (hc : c.IsArranged) : ((a.merge b).merge c).levels = ((a.merge c).merge b).levels := by
  have hbc := (ha.retains.merge hb).merge hc
  rw [add_right_comm] at hbc
  exact hbc.levels_eq ((ha.retains.merge hc).merge hb)

end Merging

end Reservoir

namespace Fleet

variable {ι E : Type} [DecidableEq ι] [HasPriority E] {s : Fleet ι E} {i j : ι}

theorem advance_merge_into (hij : i ≠ j) : s.advance (.merge i j) i = (s i).merge (s j) := by
  rw [advance, mergeInto, if_neg hij, Function.update_of_ne hij, Function.update_self]

theorem advance_merge_from (hij : i ≠ j) : s.advance (.merge i j) j = (s j).drained := by
  rw [advance, mergeInto, if_neg hij, Function.update_self]

theorem advance_merge_of_ne {k : ι} (hi : k ≠ i) (hj : k ≠ j) :
    s.advance (.merge i j) k = s k := by
  rw [advance, mergeInto]
  split
  · rfl
  · rw [Function.update_of_ne hj, Function.update_of_ne hi]

/-- **Merging reservoirs in use.** Whatever has been called before, merging the reservoir at `j`
into the one at `i` obeys the law. The numbers that are retained depend neither on how the array
at `j` is arranged nor, if another reservoir is merged as well, on which of the two comes first. -/
theorem isMerged_of_fresh (app service : ι → String) (capacity decidedLast target : ι → Nat)
    (steps : List (Step ι E)) (hij : i ≠ j) :
    let s := (fresh app service capacity decidedLast target).run steps
    (s i).IsMerged (s j) (s.advance (.merge i j) i) (s.advance (.merge i j) j) ∧
      (∀ heap : Array (Entry E), heap.toList.Perm (s j).heap.toList →
        (advance (Function.update s j { s j with heap := heap }) (.merge i j) i).levels =
          (s.advance (.merge i j) i).levels) ∧
      ∀ k, k ≠ i → k ≠ j →
        (s.run [.merge i j, .merge i k] i).levels = (s.run [.merge i k, .merge i j] i).levels ∧
        (s.run [.merge i j, .merge i k] i).tries = (s.run [.merge i k, .merge i j] i).tries := by
  intro s
  have h : ∀ k, (s k).IsArranged := fun k =>
    (isRegular_run (isRegular_fresh app service capacity decidedLast target) steps k).toIsArranged
  refine ⟨?_, fun heap hperm => ?_, fun k hki hkj => ?_⟩
  · rw [advance_merge_into hij, advance_merge_from hij]
    exact (h i).isMerged (h j)
  · rw [advance_merge_into hij, advance_merge_into hij, Function.update_of_ne hij,
      Function.update_self]
    exact Reservoir.levels_merge_perm (h i) (h j) hperm
  · have hik : i ≠ k := hki.symm
    have hboth : s.run [.merge i j, .merge i k] i = ((s i).merge (s j)).merge (s k) := by
      change advance (s.advance (.merge i j)) (.merge i k) i = _
      rw [advance_merge_into hik, advance_merge_into hij, advance_merge_of_ne hki hkj]
    have hboth' : s.run [.merge i k, .merge i j] i = ((s i).merge (s k)).merge (s j) := by
      change advance (s.advance (.merge i k)) (.merge i j) i = _
      rw [advance_merge_into hij, advance_merge_into hik, advance_merge_of_ne hij.symm hkj.symm]
    rw [hboth, hboth']
    refine ⟨Reservoir.levels_merge_comm (h i) (h j) (h k), ?_⟩
    simp only [Reservoir.tries_merge]
    exact Nat.add_right_comm _ _ _

/-- Offers to two reservoirs with room for two events each, with a tie and both zeros. -/
def tiedSteps : List (Step Bool Simulation.Event) :=
  [.call false (.offer ⟨"first", 1, 0.5, false⟩), .call false (.offer ⟨"second", 1, 0.0, false⟩),
    .call true (.offer ⟨"third", 1, 0.5, false⟩), .call true (.offer ⟨"fourth", 1, -0.0, false⟩),
    .call true (.decide 0.25), .call true .countTry, .call true .close]

theorem isMerged_of_fresh_tiedSteps :
    let s := (fresh (fun _ => "a") (fun _ => "s") (fun _ => 2) (fun _ => 0)
      (fun _ => 10)).run tiedSteps
    (s.advance (.merge false true) false).size = 2 ∧
      (s.advance (.merge false true) false).tries = 5 ∧
      (s.advance (.merge false true) true).isEmpty ∧
      (s.advance (.merge false true) true).decisions = (1, 1) := by
  intro s
  obtain ⟨hmerged, -⟩ := isMerged_of_fresh (fun _ => "a") (fun _ => "s") (fun _ => 2) (fun _ => 0)
    (fun _ => 10) tiedSteps Bool.false_ne_true
  refine ⟨hmerged.size.trans ?_, hmerged.tries.trans ?_, hmerged.drained.1,
    hmerged.decisions.2.trans ?_⟩ <;> decide +kernel

end Fleet

end Telemetry.Sampling
