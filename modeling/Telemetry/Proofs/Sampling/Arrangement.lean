import Telemetry.Proofs.Sampling.Selection
import Mathlib.Data.List.Sort

/-!
# The retained events as a sorted list

The heap array of a reservoir is one of many arrangements of the same entries. The list of its
events, highest priority first and oldest first among equals, is the only one: sequence numbers
are distinct, so no two entries are of equal rank. This makes every operation on the heap one on
a sorted list.

| operation | on the list | lemma |
|---|---|---|
| `Reservoir.append` | the event goes below those that it does not outrank | `IsArranged.toList_append` |
| `Reservoir.evict` | the last event is dropped | `IsArranged.toList_eq_concat` |
| `Reservoir.minPriority?` | the priority of the last event | `IsArranged.minPriority?_eq` |

What this rests on is `Reservoir.IsArranged`: the heap is in order, its sequence numbers are
distinct and have been given out, and every event is retained for the finite priority that it
carries. Inserting and dropping keep it (`IsArranged.insert`), so all other operations do too.
-/

namespace Telemetry.Sampling

variable {E : Type}

/-! ### Entries in order -/

/-- Whether `a` has the higher priority in the total order of doubles. -/
def Outranks {α : Type} (priority : α → Float) (a b : α) : Prop :=
  Double.rank (priority b) < Double.rank (priority a)

instance {α : Type} (priority : α → Float) : DecidableRel (Outranks priority) :=
  fun a b => inferInstanceAs (Decidable (Double.rank (priority b) < Double.rank (priority a)))

theorem Entry.outlasts_iff {a b : Entry E} : a.outlasts b ↔
    Double.rank b.priority < Double.rank a.priority ∨
      (Double.rank b.priority = Double.rank a.priority ∧ a.seq ≤ b.seq) :=
  decide_eq_true_iff

/-- Entries sorted by which of them leaves first, the first to leave last. -/
def Entry.sort (entries : List (Entry E)) : List (Entry E) := entries.mergeSort Entry.outlasts

theorem Entry.sort_perm (entries : List (Entry E)) : (sort entries).Perm entries :=
  List.mergeSort_perm _ _

theorem Entry.pairwise_sort (entries : List (Entry E)) :
    (sort entries).Pairwise fun a b => a.outlasts b :=
  List.pairwise_mergeSort outlasts_trans
    (fun a b => Bool.or_eq_true_iff.2 (outlasts_total a b)) entries

/-- **There is one way to sort** entries with distinct sequence numbers. -/
theorem Entry.sort_eq {entries sorted : List (Entry E)} (hperm : sorted.Perm entries)
    (hseq : (entries.map (·.seq)).Nodup) (hsorted : sorted.Pairwise fun a b => a.outlasts b) :
    sort entries = sorted := by
  refine List.Perm.eq_of_pairwise ?_ (pairwise_sort entries) hsorted
    ((sort_perm entries).trans hperm.symm)
  intro a b ha hb hab hba
  have hsame : a.seq = b.seq := by
    rw [outlasts_iff] at hab hba
    omega
  exact List.inj_on_of_nodup_map hseq ((sort_perm entries).mem_iff.1 ha) (hperm.mem_iff.1 hb) hsame

/-- An entry that is younger than all others goes below those that it does not outrank. -/
theorem Entry.pairwise_orderedInsert {x : Entry E} :
    ∀ {l : List (Entry E)}, (∀ e ∈ l, e.seq < x.seq) → l.Pairwise (fun a b => a.outlasts b) →
      (l.orderedInsert (Outranks Entry.priority) x).Pairwise fun a b => a.outlasts b
  | [], _, _ => List.pairwise_singleton _ _
  | y :: rest, hseq, hsorted => by
    obtain ⟨hy, hrest⟩ := List.pairwise_cons.1 hsorted
    rw [List.orderedInsert_cons]
    split
    next habove =>
      have hxy : x.outlasts y := outlasts_iff.2 (.inl habove)
      refine List.pairwise_cons.2 ⟨fun e he => ?_, hsorted⟩
      rcases List.mem_cons.1 he with rfl | he
      · exact hxy
      · exact outlasts_trans _ _ _ hxy (hy e he)
    next hbelow =>
      have hyx : y.outlasts x := by
        have hlt := hseq y List.mem_cons_self
        have hle : Double.rank x.priority ≤ Double.rank y.priority := not_lt.1 hbelow
        rw [outlasts_iff]
        omega
      refine List.pairwise_cons.2 ⟨fun e he => ?_,
        pairwise_orderedInsert (fun e he => hseq e (List.mem_cons_of_mem y he)) hrest⟩
      rcases (List.mem_orderedInsert _).1 he with rfl | he
      · exact hyx
      · exact hy e he

/-- **Sorting with one more entry**, which is younger than all others. -/
theorem Entry.sort_of_perm_cons {x : Entry E} {entries more : List (Entry E)}
    (hperm : more.Perm (x :: entries)) (hseq : (entries.map (·.seq)).Nodup)
    (hyoung : ∀ e ∈ entries, e.seq < x.seq) :
    sort more = (sort entries).orderedInsert (Outranks Entry.priority) x := by
  refine sort_eq ?_ ?_ (pairwise_orderedInsert ?_ (pairwise_sort entries))
  · exact (List.perm_orderedInsert _ _ _).trans (((sort_perm entries).cons x).trans hperm.symm)
  · refine ((hperm.map (·.seq)).nodup_iff).2 (List.nodup_cons.2 ⟨fun hmem => ?_, hseq⟩)
    obtain ⟨e, he, heq⟩ := List.mem_map.1 hmem
    exact Nat.lt_irrefl _ (heq ▸ hyoung e he)
  · exact fun e he => hyoung e ((sort_perm entries).mem_iff.1 he)

namespace Reservoir

/-! ### What the operations keep -/

/-- **An arranged reservoir**: what holds of the heap array, whatever has been inserted. -/
structure IsArranged [HasPriority E] (r : Reservoir E) : Prop where
  size_le_capacity : r.size ≤ r.capacity
  /-- No retained entry is above its parent. -/
  ordered : Heap.IsOrdered Entry.outlasts r.heap
  /-- Each event is retained for the priority it carries. -/
  carried : ∀ e ∈ r.heap.toList, e.priority = HasPriority.priority e.event
  isNumber : ∀ e ∈ r.heap.toList, Double.isNumber e.priority
  /-- Sequence numbers are distinct. -/
  seq_nodup : (r.heap.toList.map (·.seq)).Nodup
  seq_lt : ∀ e ∈ r.heap.toList, e.seq < r.nextSeq

section Arranged

variable [HasPriority E] {r other : Reservoir E} {event : E}

theorem IsArranged.isOrderly (h : r.IsArranged) : r.IsOrderly r.capacity :=
  ⟨rfl, h.ordered, h.carried⟩

theorem isArranged_of_heap_eq_empty (hheap : r.heap = #[]) : r.IsArranged where
  size_le_capacity := by
    rw [size, hheap]
    exact Nat.zero_le _
  ordered := hheap ▸ Heap.isOrdered_empty
  carried e he := absurd (hheap ▸ he) List.not_mem_nil
  isNumber e he := absurd (hheap ▸ he) List.not_mem_nil
  seq_nodup := by
    rw [hheap]
    exact List.nodup_nil
  seq_lt e he := absurd (hheap ▸ he) List.not_mem_nil

/-- **Counting and deciding** leave the heap as it is. -/
theorem IsArranged.of_heap_eq (h : r.IsArranged) (hheap : other.heap = r.heap)
    (hcapacity : other.capacity = r.capacity) (hseq : other.nextSeq = r.nextSeq) :
    other.IsArranged where
  size_le_capacity := by
    rw [size, hheap, hcapacity]
    exact h.size_le_capacity
  ordered := hheap ▸ h.ordered
  carried := hheap ▸ h.carried
  isNumber := hheap ▸ h.isNumber
  seq_nodup := hheap ▸ h.seq_nodup
  seq_lt := by
    rw [hheap, hseq]
    exact h.seq_lt

omit [HasPriority E] in
theorem append_perm (r : Reservoir E) (priority : Float) (event : E) :
    (r.append priority event).heap.toList.Perm (⟨priority, r.nextSeq, event⟩ :: r.heap.toList) :=
  Heap.push_perm _ _

omit [HasPriority E] in
theorem mem_append {priority : Float} {e : Entry E} (he : e ∈ (r.append priority event).heap.toList) :
    e = ⟨priority, r.nextSeq, event⟩ ∨ e ∈ r.heap.toList :=
  List.mem_cons.1 ((append_perm r priority event).mem_iff.1 he)

/-- Appending keeps the arrangement while there is room. -/
theorem IsArranged.append (h : r.IsArranged) (hroom : r.size < r.capacity) {priority : Float}
    (hcarried : priority = HasPriority.priority event) (hnumber : Double.isNumber priority) :
    (r.append priority event).IsArranged where
  size_le_capacity := by
    rw [size_append]
    exact hroom
  ordered := (h.isOrderly.append hcarried).ordered
  carried := (h.isOrderly.append hcarried).carried
  isNumber e he := by
    rcases mem_append he with rfl | he
    · exact hnumber
    · exact h.isNumber e he
  seq_nodup := by
    refine (((append_perm r priority event).map (·.seq)).nodup_iff).2
      (List.nodup_cons.2 ⟨fun hmem => ?_, h.seq_nodup⟩)
    obtain ⟨e, he, heq⟩ := List.mem_map.1 hmem
    have hlt := h.seq_lt e he
    rw [heq] at hlt
    exact Nat.lt_irrefl _ hlt
  seq_lt e he := by
    rcases mem_append he with rfl | he
    · exact Nat.lt_succ_self _
    · exact Nat.lt_succ_of_lt (h.seq_lt e he)

omit [HasPriority E] in
/-- **The entry in front** is the one that is evicted. -/
theorem exists_front (hpos : 0 < r.size) : ∃ front, r.heap[0]? = some front ∧
    r.heap.toList.Perm (front :: r.evict.heap.toList) := by
  have hsome : (Heap.pop? Entry.outlasts r.heap).isSome := Heap.pop?_isSome hpos
  obtain ⟨⟨front, rest⟩, hpop⟩ := Option.isSome_iff_exists.1 hsome
  obtain ⟨hperm, hfront⟩ := Heap.pop?_perm hpop
  exact ⟨front, hfront, by rw [Reservoir.evict, hpop]; exact hperm⟩

omit [HasPriority E] in
theorem size_evict (hpos : 0 < r.size) : r.evict.size + 1 = r.size := by
  obtain ⟨front, -, hperm⟩ := exists_front hpos
  have hlength := hperm.length_eq
  rw [List.length_cons, Array.length_toList, Array.length_toList] at hlength
  exact hlength.symm

omit [HasPriority E] in
theorem nextSeq_evict (r : Reservoir E) : r.evict.nextSeq = r.nextSeq := by
  rw [Reservoir.evict]
  split <;> rfl

omit [HasPriority E] in
theorem capacity_evict (r : Reservoir E) : r.evict.capacity = r.capacity :=
  congrArg (·.2.2.1) (shell_evict r)

theorem IsArranged.evict (h : r.IsArranged) (hpos : 0 < r.size) : r.evict.IsArranged := by
  obtain ⟨front, hfront, hperm⟩ := exists_front hpos
  have hmin : r.minPriority? = some front.priority := by rw [minPriority?, hfront]; rfl
  have horderly := (h.isOrderly.evict hmin).1
  have hmem : ∀ e ∈ r.evict.heap.toList, e ∈ r.heap.toList := fun e he =>
    hperm.mem_iff.2 (List.mem_cons_of_mem front he)
  have hnodup := ((hperm.map (·.seq)).nodup_iff).1 h.seq_nodup
  have hsize := size_evict hpos
  have hcapacity := h.size_le_capacity
  exact
    { size_le_capacity := by rw [capacity_evict]; omega
      ordered := horderly.ordered
      carried := horderly.carried
      isNumber := fun e he => h.isNumber e (hmem e he)
      seq_nodup := (List.nodup_cons.1 hnodup).2
      seq_lt := fun e he => nextSeq_evict r ▸ h.seq_lt e (hmem e he) }

omit [HasPriority E] in
theorem size_pos_of_outranksLowest {priority : Float} (h : r.outranksLowest priority) :
    0 < r.size := by
  obtain ⟨low, hlow, -⟩ := (Option.any_eq_true _ _).1 h
  exact size_pos_of_minPriority? hlow

/-- **Inserting** keeps the arrangement. -/
theorem IsArranged.insert (h : r.IsArranged) {priority : Float}
    (hcarried : priority = HasPriority.priority event) (hnumber : Double.isNumber priority) :
    (r.insert priority event).2.IsArranged := by
  rw [Reservoir.insert]
  split
  next hfull =>
    split
    next hhigh =>
      have hpos := size_pos_of_outranksLowest hhigh
      have hsize := size_evict hpos
      have hcapacity := h.size_le_capacity
      refine (h.evict hpos).append ?_ hcarried hnumber
      rw [capacity_evict]
      omega
    next => exact h
  next hroom => exact h.append (by simpa [isFull] using hroom) hcarried hnumber

theorem IsArranged.insertAll (h : r.IsArranged) {entries : List (Entry E)}
    (hcarried : ∀ e ∈ entries, e.priority = HasPriority.priority e.event)
    (hnumber : ∀ e ∈ entries, Double.isNumber e.priority) : (r.insertAll entries).IsArranged := by
  induction entries generalizing r with
  | nil => exact h
  | cons e rest ih =>
    exact ih (h.insert (hcarried e List.mem_cons_self) (hnumber e List.mem_cons_self))
      (fun e' he' => hcarried e' (List.mem_cons_of_mem e he'))
      (fun e' he' => hnumber e' (List.mem_cons_of_mem e he'))

/-- **Merging** keeps the arrangement. -/
theorem IsArranged.merge (h : r.IsArranged) (hother : other.IsArranged) :
    (r.merge other).IsArranged := by
  have hsum : IsArranged { r with tries := r.tries + other.tries } := h.of_heap_eq rfl rfl rfl
  exact hsum.insertAll hother.carried hother.isNumber

/-- **Offering** keeps the arrangement. -/
theorem IsArranged.offer (h : r.IsArranged) (event : E) :
    (r.offer (HasPriority.priority event) event).2.IsArranged := by
  rcases r.offer_cases (HasPriority.priority event) event with ⟨-, ho⟩ | ⟨-, hn, ho⟩ | ⟨-, -, ho⟩
  · rwa [ho]
  · rw [ho]
    have htried : r.tried.IsArranged := h.of_heap_eq rfl rfl rfl
    exact htried.insert rfl hn
  · rw [ho]
    exact h.of_heap_eq rfl rfl rfl

theorem IsArranged.countTry (h : r.IsArranged) : r.countTry.2.IsArranged := by
  rw [Reservoir.countTry]
  split
  · exact h
  · exact h.of_heap_eq rfl rfl rfl

/-! ### The list -/

/-- **Appending** puts an event below those that it does not outrank. -/
theorem IsArranged.entries_append (h : r.IsArranged) (priority : Float) (event : E) :
    (r.append priority event).entries =
      r.entries.orderedInsert (Outranks Entry.priority) ⟨priority, r.nextSeq, event⟩ :=
  Entry.sort_of_perm_cons (append_perm r priority event) h.seq_nodup h.seq_lt

theorem IsArranged.carried_entries (h : r.IsArranged) {e : Entry E} (he : e ∈ r.entries) :
    e.priority = HasPriority.priority e.event :=
  h.carried e ((Entry.sort_perm _).mem_iff.1 he)

theorem IsArranged.toList_append (h : r.IsArranged) {priority : Float}
    (hcarried : priority = HasPriority.priority event) :
    (r.append priority event).toList =
      r.toList.orderedInsert (Outranks HasPriority.priority) event := by
  rw [toList, h.entries_append, toList]
  refine List.map_orderedInsert _ (Outranks HasPriority.priority) Entry.event _ _ ?_ ?_ <;>
  · intro e he
    rw [Outranks, Outranks, h.carried_entries he, hcarried]

/-- No retained entry leaves before the one in front. -/
theorem IsArranged.outlasts_front (h : r.IsArranged) {front : Entry E}
    (hfront : r.heap[0]? = some front) {e : Entry E} (he : e ∈ r.heap.toList) :
    e.outlasts front := by
  obtain ⟨i, hi, rfl⟩ := Array.mem_iff_getElem.1 (Array.mem_toList_iff.1 he)
  have hpos : 0 < r.heap.size := Nat.lt_of_le_of_lt (Nat.zero_le i) hi
  rw [Array.getElem?_eq_getElem hpos] at hfront
  obtain rfl := Option.some.inj hfront
  exact h.ordered.le_front Entry.outlasts_trans Entry.outlasts_refl i hi hpos

/-- **Evicting** drops the last entry, which is the one in front of the heap. -/
theorem IsArranged.entries_eq_concat (h : r.IsArranged) (hpos : 0 < r.size) :
    ∃ front, r.heap[0]? = some front ∧ r.entries = r.evict.entries ++ [front] := by
  obtain ⟨front, hfront, hperm⟩ := exists_front hpos
  refine ⟨front, hfront, Entry.sort_eq ?_ h.seq_nodup (List.pairwise_append.2
    ⟨Entry.pairwise_sort _, List.pairwise_singleton _ _, fun e he f hf => ?_⟩)⟩
  · exact List.perm_append_comm.trans (((Entry.sort_perm _).cons front).trans hperm.symm)
  · rw [List.mem_singleton.1 hf]
    exact h.outlasts_front hfront
      (hperm.mem_iff.2 (List.mem_cons_of_mem front ((Entry.sort_perm _).mem_iff.1 he)))

/-- Of the list, evicting drops the last event, whose priority is the lowest one. -/
theorem IsArranged.toList_eq_concat (h : r.IsArranged) (hpos : 0 < r.size) :
    ∃ last, r.toList = r.evict.toList ++ [last] ∧
      r.minPriority? = some (HasPriority.priority last) := by
  obtain ⟨front, hfront, hentries⟩ := h.entries_eq_concat hpos
  have hmem : front ∈ r.entries := hentries ▸ List.mem_append_right _ List.mem_cons_self
  refine ⟨front.event, by rw [toList, hentries, List.map_append]; rfl, ?_⟩
  rw [minPriority?, hfront, ← h.carried_entries hmem]
  rfl

/-- **The lowest priority** is that of the last event. -/
theorem IsArranged.minPriority?_eq (h : r.IsArranged) :
    r.minPriority? = r.toList.getLast?.map HasPriority.priority := by
  rcases Nat.eq_zero_or_pos r.size with hzero | hpos
  · have hheap : r.heap = #[] := Array.size_eq_zero_iff.1 hzero
    have hnil : r.toList = [] := List.eq_nil_of_length_eq_zero (r.length_toList.trans hzero)
    rw [minPriority?, hheap, hnil]
    rfl
  · obtain ⟨last, hlast, hmin⟩ := h.toList_eq_concat hpos
    rw [hmin, hlast, List.getLast?_concat]
    rfl

/-- **The list descends** in the total order of doubles. -/
theorem IsArranged.pairwise_toList (h : r.IsArranged) : r.toList.Pairwise fun a b =>
    Double.rank (HasPriority.priority b) ≤ Double.rank (HasPriority.priority a) := by
  refine List.pairwise_map.2 ((Entry.pairwise_sort r.heap.toList).imp_of_mem ?_)
  intro a b ha hb hab
  rw [← h.carried_entries ha, ← h.carried_entries hb]
  rw [Entry.outlasts_iff] at hab
  omega

omit [HasPriority E] in
theorem mem_retained {event : E} : event ∈ r.retained ↔ event ∈ r.toList := by
  rw [← coe_toList, Multiset.mem_coe]

/-- There is a lowest priority exactly if something is retained. -/
theorem IsArranged.minPriority?_eq_none_iff (h : r.IsArranged) :
    r.minPriority? = none ↔ r.isEmpty := by
  rw [h.minPriority?_eq, Option.map_eq_none_iff, List.getLast?_eq_none_iff,
    ← List.length_eq_zero_iff, length_toList, isEmpty, decide_eq_true_iff]

/-- **The lowest priority** is that of a retained event, and no retained event is below it. -/
theorem IsArranged.minPriority?_spec (h : r.IsArranged) {low : Float}
    (hlow : r.minPriority? = some low) :
    (∃ event ∈ r.retained, HasPriority.priority event = low) ∧
      ∀ event ∈ r.retained, Double.rank low ≤ Double.rank (HasPriority.priority event) := by
  obtain ⟨last, hlast, hmin⟩ := h.toList_eq_concat (size_pos_of_minPriority? hlow)
  rw [hlow] at hmin
  obtain rfl := Option.some.inj hmin
  have hsorted := h.pairwise_toList
  simp only [mem_retained, hlast] at hsorted ⊢
  refine ⟨⟨last, List.mem_append_right _ List.mem_cons_self, rfl⟩, fun event hevent => ?_⟩
  rcases List.mem_append.1 hevent with hevent | hevent
  · exact (List.pairwise_append.1 hsorted).2.2 event hevent last List.mem_cons_self
  · rw [List.mem_singleton.1 hevent]

end Arranged

end Reservoir

end Telemetry.Sampling
