import Telemetry.Proofs.Double.Comparison
import Telemetry.Proofs.Sampling.Fleet
import Telemetry.Simulation.Event

/-!
# A reservoir keeps the top of a stream

Events that are offered one after the other form a stream. Of all of them, sorted by descending
priority and among equals by arrival, a reservoir of capacity `M` retains the first `M`, in that
order (`Reservoir.toList_performAll`).

A stable sort can be done one arrival at a time: the newcomer goes below those it does not
outrank (`ranking_concat`). So can its first `M` elements. The newcomer either goes below all of
them, and they stay as they are (`take_orderedInsert_of_not`), or pushes the last of them out
(`take_orderedInsert`). That is what the reservoir does, as far as its two orders agree: it
turns a newcomer away by the number that the priority stands for, and sorts by the total order
of doubles. They only disagree about the two zeros.
-/

namespace Telemetry.Sampling

/-! ### The first elements of a sorted list -/

section Take

variable {α : Type} {r : α → α → Prop} [DecidableRel r] {x y : α} {n : Nat} {l : List α}

/-- An element that goes below the first ones leaves them as they are. -/
theorem take_orderedInsert_of_not (hsorted : l.Pairwise fun a b => r x a → r x b)
    (hy : l[n]? = some y) (hxy : ¬r x y) : (l.orderedInsert r x).take (n + 1) = l.take (n + 1) := by
  induction l generalizing n with
  | nil => nomatch hy
  | cons z rest ih =>
    obtain ⟨hz, hrest⟩ := List.pairwise_cons.1 hsorted
    cases n with
    | zero =>
      obtain rfl := Option.some.inj hy
      rw [List.orderedInsert_cons, if_neg hxy]
      rfl
    | succ n =>
      have hxz : ¬r x z := fun h => hxy (hz y (List.mem_of_getElem? hy) h)
      rw [List.orderedInsert_cons, if_neg hxz]
      exact congrArg (z :: ·) (ih hrest hy)

/-- Any other element pushes out the last of the first ones. -/
theorem take_orderedInsert (hroom : ∀ y, l[n]? = some y → r x y) :
    (l.orderedInsert r x).take (n + 1) = (l.take n).orderedInsert r x := by
  induction l generalizing n with
  | nil => rw [List.take_nil, List.orderedInsert_nil, List.take_succ_cons, List.take_nil]
  | cons z rest ih =>
    rw [List.orderedInsert_cons]
    cases n with
    | zero => rw [if_pos (hroom z rfl)]; rfl
    | succ n =>
      rw [List.take_succ_cons, List.orderedInsert_cons]
      split
      · rfl
      · exact congrArg (z :: ·) (ih hroom)

end Take

/-! ### Ranking a stream -/

section Ranking

variable {E : Type} [HasPriority E]

/-- Events by descending priority, and by arrival among equals. -/
def ranking (events : List E) : List E :=
  events.mergeSort fun a b =>
    Double.rank (HasPriority.priority b) ≤ Double.rank (HasPriority.priority a)

/-- An event as an entry, numbered by its arrival. -/
def arrival (e : E × Nat) : Entry E := ⟨HasPriority.priority e.1, e.2, e.1⟩

/-- A ranking is a way to sort entries. -/
theorem ranking_eq (events : List E) :
    ranking events = (Entry.sort (events.zipIdx.map arrival)).map (·.event) := by
  -- a stable sort is a sort by priority and position
  have hsort : Entry.sort (events.zipIdx.map arrival) = (events.zipIdx.mergeSort (List.zipIdxLE
      fun a b => Double.rank (HasPriority.priority b) ≤ Double.rank (HasPriority.priority a))).map
        arrival := by
    refine (List.map_mergeSort fun a _ b _ => ?_).symm
    rw [Bool.eq_iff_iff, Entry.outlasts_iff, List.zipIdxLE]
    simp only [arrival, decide_eq_true_eq]
    split
    · split
      · rw [decide_eq_true_iff]
        omega
      · simp only [true_iff]
        omega
    · simp only [Bool.false_eq_true, false_iff]
      omega
  rw [hsort, List.map_map, ranking, ← List.mergeSort_zipIdx]
  rfl

theorem seq_arrivals (events : List E) :
    (events.zipIdx.map arrival).map (·.seq) = List.range events.length := by
  rw [List.map_map, List.range_eq_range']
  exact List.zipIdx_map_snd 0 events

theorem carried_arrivals {events : List E} {e : Entry E}
    (he : e ∈ Entry.sort (events.zipIdx.map arrival)) :
    e.priority = HasPriority.priority e.event := by
  obtain ⟨_, -, rfl⟩ := List.mem_map.1 ((Entry.sort_perm _).mem_iff.1 he)
  rfl

/-- **The newcomer** goes below those that it does not outrank. -/
theorem ranking_concat (events : List E) (event : E) :
    ranking (events ++ [event]) =
      (ranking events).orderedInsert (Outranks HasPriority.priority) event := by
  have hmore : (events ++ [event]).zipIdx.map arrival =
      events.zipIdx.map arrival ++ [arrival (event, events.length)] := by
    rw [List.zipIdx_append, List.map_append, Nat.zero_add]
    rfl
  have hsort : Entry.sort ((events ++ [event]).zipIdx.map arrival) =
      (Entry.sort (events.zipIdx.map arrival)).orderedInsert (Outranks Entry.priority)
        (arrival (event, events.length)) := by
    refine Entry.sort_of_perm_cons (hmore ▸ List.perm_append_comm) ?_ fun e he => ?_
    · rw [seq_arrivals]
      exact List.nodup_range
    · have hseq := List.mem_map_of_mem (f := Entry.seq) he
      rw [seq_arrivals] at hseq
      exact List.mem_range.1 hseq
  rw [ranking_eq, hsort, ranking_eq]
  refine List.map_orderedInsert _ (Outranks HasPriority.priority) Entry.event _ _ ?_ ?_ <;>
  · intro e he
    rw [Outranks, Outranks, carried_arrivals he]
    rfl

theorem ranking_perm (events : List E) : (ranking events).Perm events := List.mergeSort_perm _ _

theorem pairwise_ranking (events : List E) : (ranking events).Pairwise fun a b =>
    Double.rank (HasPriority.priority b) ≤ Double.rank (HasPriority.priority a) := by
  have hsorted : (ranking events).Pairwise fun a b => decide
      (Double.rank (HasPriority.priority b) ≤ Double.rank (HasPriority.priority a)) := by
    refine List.pairwise_mergeSort (fun a b c hab hbc => ?_) (fun a b => ?_) events
    · exact decide_eq_true ((of_decide_eq_true hbc).trans (of_decide_eq_true hab))
    · rw [Bool.or_eq_true, decide_eq_true_iff, decide_eq_true_iff]
      omega
  exact hsorted.imp of_decide_eq_true

/-! ### Where the two orders agree -/

/-- No two of the events are zeros of different sign. -/
def Agree (events : List E) : Prop :=
  ∀ a ∈ events, ∀ b ∈ events, Double.level (HasPriority.priority a) =
    Double.level (HasPriority.priority b) →
      Double.rank (HasPriority.priority a) = Double.rank (HasPriority.priority b)

/-- Where zeros of one sign only occur, the two orders agree. -/
theorem agree_of_zeros {events : List E}
    (h : (∀ e ∈ events, HasPriority.priority e ≠ 0.0) ∨
      ∀ e ∈ events, HasPriority.priority e ≠ -0.0) : Agree events := by
  intro a ha b hb hlevel
  rcases Double.rank_eq_of_level_eq hlevel with hrank | ⟨hzero, hminus⟩ | ⟨hminus, hzero⟩
  · exact hrank
  · exact h.elim (fun h => absurd hzero (h a ha)) fun h => absurd hminus (h b hb)
  · exact h.elim (fun h => absurd hzero (h b hb)) fun h => absurd hminus (h a ha)

/-- Where the two orders agree, a ranking is a stable sort by descending numbers. -/
theorem ranking_eq_mergeSort {events : List E} (hagree : Agree events)
    (hnumber : ∀ e ∈ events, Double.isNumber (HasPriority.priority e)) :
    ranking events =
      events.mergeSort fun a b => HasPriority.priority b ≤ HasPriority.priority a := by
  have hsame := List.map_mergeSort (f := id) (l := events) (r := fun a b : E => decide
    (Double.rank (HasPriority.priority b) ≤ Double.rank (HasPriority.priority a)))
    (s := fun a b => decide (HasPriority.priority b ≤ HasPriority.priority a))
    fun a ha b hb => by
      rw [decide_eq_decide, id, id, Double.le_iff_level_le (hnumber b hb) (hnumber a ha)]
      refine ⟨Double.level_le_of_rank_le, fun hle => ?_⟩
      rcases lt_or_eq_of_le hle with hlt | heq
      · exact (Double.rank_lt_of_level_lt hlt).le
      · exact (hagree b hb a ha heq).le
  rwa [List.map_id, List.map_id] at hsame

end Ranking

/-! ### The stream of calls -/

namespace Call

variable {E : Type}

/-- Whether a call belongs to a stream, in which the reservoir is neither sealed nor cleared. -/
def IsStreamed : Call E → Prop
  | .close | .clear => False
  | _ => True

/-- The event that a call offers. -/
def event? : Call E → Option E
  | .offer event => some event
  | _ => none

/-- Whether a call counts an offer that was skipped. -/
def isSkip : Call E → Bool
  | .countTry => true
  | _ => false

end Call

namespace Reservoir

variable {E : Type} [HasPriority E] {M : Nat} {offered : List E} {r : Reservoir E} {event : E}

/-- The reservoir after some calls. -/
def performAll (r : Reservoir E) (calls : List (Call E)) : Reservoir E := calls.foldl perform r

/-- A reservoir of capacity `M` that retains the first of the events that were offered. -/
structure Tops (M : Nat) (offered : List E) (r : Reservoir E) : Prop extends r.IsArranged where
  capacity : r.capacity = M
  toList : r.toList = (ranking offered).take M

theorem tops_empty (app service : String) (M decidedLast target : Nat) :
    (empty app service M decidedLast target : Reservoir E).Tops M [] where
  toIsArranged := isArranged_of_heap_eq_empty rfl
  capacity := rfl
  toList := by
    have hnil : (empty app service M decidedLast target : Reservoir E).toList = [] :=
      List.eq_nil_of_length_eq_zero (length_toList _)
    rw [hnil, ranking, List.mergeSort_nil, List.take_nil]

theorem Tops.of_heap_eq {other : Reservoir E} (h : r.Tops M offered) (hheap : other.heap = r.heap)
    (hcapacity : other.capacity = r.capacity) (hseq : other.nextSeq = r.nextSeq) :
    other.Tops M offered where
  toIsArranged := h.toIsArranged.of_heap_eq hheap hcapacity hseq
  capacity := hcapacity.trans h.capacity
  toList := by
    rw [Reservoir.toList, entries, hheap]
    exact h.toList

theorem Tops.size_eq (h : r.Tops M offered) : r.size = min M offered.length := by
  rw [← length_toList, h.toList, List.length_take, (ranking_perm offered).length_eq]

/-- **The last event** of a full reservoir is the last of the first ones in the ranking. It is the
one to outrank, and without it the others are the first ones but one. -/
theorem Tops.exists_last {n : Nat} (h : r.Tops (n + 1) offered) (hfull : r.isFull) :
    ∃ last, (ranking offered)[n]? = some last ∧
      (∀ priority, r.outranksLowest priority ↔
        Double.level (HasPriority.priority last) < Double.level priority) ∧
      r.evict.toList = (ranking offered).take n := by
  have hsize : n + 1 ≤ r.size := h.capacity ▸ of_decide_eq_true hfull
  have hlt : n < (ranking offered).length := by
    have hmin := h.size_eq
    rw [(ranking_perm offered).length_eq]
    omega
  obtain ⟨last, hlast, hmin⟩ := h.toList_eq_concat (Nat.lt_of_lt_of_le (Nat.succ_pos n) hsize)
  rw [h.toList, List.take_succ_eq_append_getElem hlt] at hlast
  obtain ⟨hevict, hsame⟩ := List.append_inj' hlast rfl
  obtain rfl := List.singleton_inj.1 hsame
  refine ⟨_, List.getElem?_eq_getElem hlt, fun priority => ?_, hevict.symm⟩
  rw [outranksLowest, hmin, Option.any_some, decide_eq_true_iff]

/-- **There is room** for one more arrival: all are retained. -/
theorem Tops.toList_append (h : r.Tops M offered) (hroom : ¬r.isFull) :
    (r.append (HasPriority.priority event) event).toList =
      (ranking (offered ++ [event])).take M := by
  have hsize := h.size_eq
  have hlength : (ranking offered).length = offered.length := (ranking_perm offered).length_eq
  rw [isFull, decide_eq_true_iff, h.capacity] at hroom
  rw [h.toIsArranged.toList_append rfl, ranking_concat, h.toList]
  rw [List.take_of_length_le (by omega), List.take_of_length_le]
  rw [List.orderedInsert_length]
  omega

/-- **One more arrival outranks** the last event, and pushes it out. -/
theorem Tops.toList_replace (h : r.Tops M offered) (hfull : r.isFull)
    (hhigh : r.outranksLowest (HasPriority.priority event)) :
    (r.evict.append (HasPriority.priority event) event).toList =
      (ranking (offered ++ [event])).take M := by
  have hpos := size_pos_of_outranksLowest hhigh
  rw [(h.toIsArranged.evict hpos).toList_append rfl, ranking_concat]
  cases M with
  | zero =>
    rw [h.size_eq, Nat.zero_min] at hpos
    exact absurd hpos (Nat.lt_irrefl 0)
  | succ n =>
    obtain ⟨last, hlast, houtranks, hevict⟩ := h.exists_last hfull
    rw [hevict]
    refine (take_orderedInsert fun y hy => ?_).symm
    obtain rfl := Option.some.inj (hlast.symm.trans hy)
    exact Double.rank_lt_of_level_lt ((houtranks _).1 hhigh)

/-- **One more arrival is turned away**. By the order that the events are sorted by, it goes below
the last one, if that order agrees on it. -/
theorem Tops.toList_reject (h : r.Tops M offered) (hfull : r.isFull)
    (hlow : ¬r.outranksLowest (HasPriority.priority event))
    (hagree : ∀ e ∈ offered, Double.level (HasPriority.priority e) =
      Double.level (HasPriority.priority event) →
        Double.rank (HasPriority.priority e) = Double.rank (HasPriority.priority event)) :
    r.toList = (ranking (offered ++ [event])).take M := by
  rw [ranking_concat, h.toList]
  cases M with
  | zero => rw [List.take_zero, List.take_zero]
  | succ n =>
    obtain ⟨last, hlast, houtranks, -⟩ := h.exists_last hfull
    have hmem : last ∈ offered := (ranking_perm offered).mem_iff.1 (List.mem_of_getElem? hlast)
    rw [houtranks] at hlow
    refine (take_orderedInsert_of_not ?_ hlast fun hrank => ?_).symm
    · exact (pairwise_ranking offered).imp fun hle hlt => lt_of_le_of_lt hle hlt
    · -- of equal levels, the ranks are equal
      have hle := Double.level_le_of_rank_le hrank.le
      exact hrank.ne (hagree last hmem (by omega))

/-- **One more arrival.** The two orders have to agree on it and the events before. -/
theorem Tops.insert (h : r.Tops M offered) (hnumber : Double.isNumber (HasPriority.priority event))
    (hagree : ∀ e ∈ offered, Double.level (HasPriority.priority e) =
      Double.level (HasPriority.priority event) →
        Double.rank (HasPriority.priority e) = Double.rank (HasPriority.priority event)) :
    (r.insert (HasPriority.priority event) event).2.Tops M (offered ++ [event]) where
  toIsArranged := h.toIsArranged.insert rfl hnumber
  capacity := (capacity_insert r _ event).trans h.capacity
  toList := by
    rw [Reservoir.insert]
    split
    next hfull =>
      split
      next hhigh => exact h.toList_replace hfull hhigh
      next hlow => exact h.toList_reject hfull hlow hagree
    next hroom => exact h.toList_append hroom

/-- The events of finite priority that calls offer. -/
def arrivals (calls : List (Call E)) : List E :=
  (calls.filterMap Call.event?).filter fun event => Double.isNumber (HasPriority.priority event)

/-- **One call of a stream** passes the arrival on, and counts it. -/
theorem Tops.perform (h : r.Tops M offered) (hopen : r.isSealed = false) {c : Call E}
    (hc : c.IsStreamed) (hagree : Agree (offered ++ arrivals [c])) :
    (r.perform c).Tops M (offered ++ arrivals [c]) ∧ (r.perform c).isSealed = false ∧
      (r.perform c).tries = r.tries + (c.event?.toList.length + [c].countP Call.isSkip) := by
  cases c with
  | close => exact hc.elim
  | clear => exact hc.elim
  | countTry =>
    rw [Reservoir.perform, countTry_of_not_isSealed hopen]
    refine ⟨?_, hopen, rfl⟩
    rw [show arrivals [(.countTry : Call E)] = [] from rfl, List.append_nil]
    exact h.of_heap_eq rfl rfl rfl
  | decide random =>
    refine ⟨?_, hopen, rfl⟩
    rw [show arrivals [(.decide random : Call E)] = [] from rfl, List.append_nil]
    exact h.of_heap_eq rfl rfl rfl
  | offer event =>
    have htried : r.tried.Tops M offered := h.of_heap_eq rfl rfl rfl
    rw [Reservoir.perform]
    cases hn : Double.isNumber (HasPriority.priority event) with
    | true =>
      have harrivals : arrivals [Call.offer event] = [event] := List.filter_cons_of_pos hn
      rw [harrivals] at hagree ⊢
      rw [offer_of_isNumber hopen hn]
      refine ⟨htried.insert hn fun e he hlevel => ?_, ?_, ?_⟩
      · exact hagree e (List.mem_append_left _ he) event
          (List.mem_append_right _ List.mem_cons_self) hlevel
      · exact (isSealed_insert _ _ _).trans hopen
      · exact tries_insert _ _ _
    | false =>
      have harrivals : arrivals [Call.offer event] = [] :=
        List.filter_cons_of_neg (by rw [hn]; exact Bool.false_ne_true)
      rw [harrivals, List.append_nil, offer_of_not_isNumber hopen hn]
      exact ⟨htried, hopen, rfl⟩

/-- **A stream of calls**, one after the other. -/
theorem Tops.performAll (h : r.Tops M offered) (hopen : r.isSealed = false)
    {calls : List (Call E)} (hcalls : ∀ c ∈ calls, c.IsStreamed)
    (hagree : Agree (offered ++ arrivals calls)) :
    (r.performAll calls).Tops M (offered ++ arrivals calls) ∧ (r.performAll calls).tries =
      r.tries + ((calls.filterMap Call.event?).length + calls.countP Call.isSkip) := by
  induction calls generalizing r offered with
  | nil => exact ⟨(List.append_nil offered).symm ▸ h, rfl⟩
  | cons c rest ih =>
    have hskips : (c :: rest).countP Call.isSkip =
        [c].countP Call.isSkip + rest.countP Call.isSkip := by
      rw [← List.countP_append, List.singleton_append]
    have hevents : (c :: rest).filterMap Call.event? =
        c.event?.toList ++ rest.filterMap Call.event? := by
      cases hc : c.event? <;> simp [hc]
    have harrivals : offered ++ arrivals (c :: rest) =
        offered ++ arrivals [c] ++ arrivals rest := by
      rw [List.append_assoc, arrivals, hevents, List.filter_append]
      cases c <;> rfl
    rw [harrivals] at hagree ⊢
    obtain ⟨htops, hopen', htries⟩ := h.perform hopen (hcalls c List.mem_cons_self)
      fun a ha b hb => hagree a (List.mem_append_left _ ha) b (List.mem_append_left _ hb)
    obtain ⟨hrest, htriesRest⟩ :=
      ih htops hopen' (fun c' hc' => hcalls c' (List.mem_cons_of_mem c hc')) hagree
    refine ⟨hrest, htriesRest.trans ?_⟩
    rw [htries, hevents, List.length_append, hskips]
    omega

/-- **A reservoir keeps the top of its stream.** After offers, skipped offers and decisions, the
list of a new reservoir has the first events of those of finite priority, sorted by descending
priority and in order of arrival among equals; and all offers have been counted. The zeros among
the priorities have to be of one sign. -/
theorem toList_performAll (app service : String) (M decidedLast target : Nat)
    (calls : List (Call E)) (hcalls : ∀ c ∈ calls, c.IsStreamed)
    (hzeros : (∀ event ∈ calls.filterMap Call.event?, HasPriority.priority event ≠ 0.0) ∨
      ∀ event ∈ calls.filterMap Call.event?, HasPriority.priority event ≠ -0.0) :
    let r := (empty app service M decidedLast target).performAll calls
    let events := calls.filterMap Call.event?
    r.toList = ((events.filter fun event => (HasPriority.priority event).isFinite).mergeSort
      fun a b => HasPriority.priority b ≤ HasPriority.priority a).take M ∧
      r.tries = events.length + calls.countP Call.isSkip := by
  intro r events
  have hfilter : (events.filter fun event => (HasPriority.priority event).isFinite) =
      arrivals calls := by
    simp only [Double.isFinite_eq_isNumber]
    rfl
  have hmem : ∀ e ∈ arrivals calls, e ∈ events := fun e he => (List.mem_filter.1 he).1
  have hagree : Agree (arrivals calls) := agree_of_zeros
    (hzeros.imp (fun h e he => h e (hmem e he)) fun h e he => h e (hmem e he))
  obtain ⟨htops, htries⟩ :=
    (tops_empty app service M decidedLast target).performAll rfl hcalls hagree
  rw [hfilter, ← ranking_eq_mergeSort hagree fun e he => (List.mem_filter.1 he).2]
  exact ⟨htops.toList, htries.trans (Nat.zero_add _)⟩

/-- Offers of equal priority, of one that is not finite, and of zero. -/
def tiedCalls : List (Call Simulation.Event) :=
  [.offer ⟨"first", 1, 0.75, false⟩, .offer ⟨"none", 1, 0.0 / 0.0, false⟩,
    .offer ⟨"second", 1, 0.75, false⟩, .countTry, .decide 0.25, .offer ⟨"third", 1, 0.75, false⟩,
    .offer ⟨"fourth", 1, 0.0, false⟩]

theorem toList_performAll_tiedCalls :
    let r := (empty "a" "s" 2 0 10).performAll tiedCalls
    r.toList.map (·.name) = ["first", "second"] ∧ r.tries = 6 := by
  have hcalls : ∀ c ∈ tiedCalls, c.IsStreamed := by simp [tiedCalls, Call.IsStreamed]
  have hzeros : ∀ event ∈ tiedCalls.filterMap Call.event?,
      HasPriority.priority event ≠ -0.0 := by decide +kernel
  obtain ⟨hlist, htries⟩ := toList_performAll "a" "s" 2 0 10 tiedCalls hcalls (.inr hzeros)
  refine ⟨?_, htries.trans (by decide +kernel)⟩
  rw [hlist, List.mergeSort_of_pairwise (by decide +kernel)]
  decide +kernel

end Reservoir

end Telemetry.Sampling
