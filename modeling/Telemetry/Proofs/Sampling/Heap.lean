import Telemetry.Sampling.Heap
import Mathlib.Data.List.Basic
import Mathlib.Data.List.Perm.Basic

/-!
# The heap operations permute, and keep the order

Two facts about each operation of `Telemetry.Sampling.Heap`, over any order `le`.

* It only **moves elements around**: `Heap.push` adds its element and nothing else
  (`Heap.push_perm`), `Heap.pop?` takes away what it returns and nothing else
  (`Heap.pop?_perm`).
* It keeps the array **ordered** (`Heap.IsOrdered`): no element is above its parent. So
  what stands in front, and is popped, is a greatest element (`Heap.IsOrdered.le_front`).

Both operations work on an array that is in order except around one position, the *hole*.
`Heap.OrderedAround` is what holds on the way: the pairs that do not touch the hole are in
order, and so are the children of the hole with its parent – as if the hole had been cut
out. An element lifted from the hole ends in an ordered array (`Heap.isOrdered_siftUp`);
letting it sink only moves the hole (`Heap.orderedAround_sink`), down to a position
without children.
-/

namespace Telemetry.Sampling.Heap

variable {α : Type} {le : α → α → Bool}

/-! ### Nothing is added or lost -/

theorem siftUp_perm (heap : Array α) (i : Nat) : (siftUp le heap i).Perm heap := by
  fun_induction siftUp le heap i with
  | case1 => exact .refl _
  | case2 heap i h hp hle ih => exact ih.trans (Array.swap_perm _ _)
  | case3 => exact .refl _

/-- **Pushing** adds the element. -/
theorem push_perm (heap : Array α) (x : α) : (push le heap x).toList.Perm (x :: heap.toList) := by
  have h : (push le heap x).toList.Perm (heap.push x).toList := (siftUp_perm _ _).toList
  rw [Array.toList_push] at h
  exact h.trans List.perm_append_comm

theorem sink_perm (heap : Array α) (i : Nat) : (sink le heap i).1.Perm heap := by
  fun_induction sink le heap i with
  | case1 heap i h hle ih => exact ih.trans (Array.swap_perm _ _)
  | case2 heap i h hle ih => exact ih.trans (Array.swap_perm _ _)
  | case3 heap i h h' => exact Array.swap_perm _ _
  | case4 => exact .refl _

theorem siftUp_sink_perm (heap : Array α) (i : Nat) :
    (siftUp le (sink le heap i).1 (sink le heap i).2).Perm heap :=
  (siftUp_perm _ _).trans (sink_perm heap i)

/-- A nonempty list is its first element put in front of a list whose first element has
been replaced by its last, and its last taken off: the move with which popping starts. -/
theorem perm_moveLast (x : α) (l : List α) (y : α) :
    (x :: (l ++ [y])).Perm (x :: (y :: l)) := by
  have h : (l ++ [y]).Perm ([y] ++ l) := List.perm_append_comm
  exact h.cons x

theorem toList_eq_dropLast_append {heap : Array α} (h : 0 < heap.size)
    (hlt : heap.size - 1 < heap.size) :
    heap.toList = heap.pop.toList ++ [heap[heap.size - 1]] := by
  have hne : heap.toList ≠ [] := by
    intro hcon
    rw [← Array.length_toList, hcon] at h
    exact absurd h (Nat.lt_irrefl 0)
  have hlast := List.dropLast_append_getLast hne
  rw [List.getLast_eq_getElem] at hlast
  rw [Array.toList_pop, ← Array.getElem_toList]
  exact hlast.symm

/-- **Popping** takes away the element that it returns, which stood in front. -/
theorem pop?_perm {heap rest : Array α} {top : α} (h : pop? le heap = some (top, rest)) :
    heap.toList.Perm (top :: rest.toList) ∧ heap[0]? = some top := by
  unfold pop? at h
  split at h
  case isFalse => exact absurd h (by simp)
  case isTrue hpos =>
    have hlast := toList_eq_dropLast_append hpos (Nat.sub_lt hpos Nat.zero_lt_one)
    simp only at h
    split at h
    case isFalse hrest =>
      -- the last element is the one in front as well
      obtain ⟨rfl, rfl⟩ : heap[heap.size - 1] = top ∧ heap.pop = rest := by simpa using h
      have hsize : heap.size = 1 := by rw [Array.size_pop] at hrest; omega
      have hpop : heap.pop.toList = [] := by
        apply List.eq_nil_of_length_eq_zero
        simp [hsize]
      refine ⟨?_, by simp [hsize]⟩
      rw [hlast, hpop]
      exact .refl _
    case isTrue hrest =>
      obtain ⟨rfl, rfl⟩ := Prod.mk.inj (Option.some.inj h)
      -- the last element takes the place in front, and then sinks
      refine ⟨?_, by simp⟩
      obtain ⟨front, others, hcons⟩ : ∃ front others, heap.pop.toList = front :: others := by
        cases hl : heap.pop.toList with
        | nil => rw [← Array.length_toList, hl] at hrest; exact absurd hrest (Nat.lt_irrefl 0)
        | cons a l => exact ⟨a, l, rfl⟩
      have hfront : heap.pop[0] = front := by
        rw [← Array.getElem_toList]
        simp only [hcons, List.getElem_cons_zero]
      have hset : (heap.pop.set 0 heap[heap.size - 1]).toList =
          heap[heap.size - 1] :: others := by
        rw [Array.toList_set, hcons, List.set_cons_zero]
      rw [hlast, hcons, hfront]
      refine (perm_moveLast front others _).trans (List.Perm.cons front ?_)
      rw [← hset]
      exact (siftUp_sink_perm _ 0).toList.symm

theorem pop?_isSome {heap : Array α} (h : 0 < heap.size) : (pop? le heap).isSome := by
  rw [pop?]
  rw [dif_pos h]
  simp only
  split <;> rfl

/-! ### The order -/

variable (le) in
/-- **An ordered array**: no element is above its parent. -/
def IsOrdered (heap : Array α) : Prop :=
  ∀ (i : Nat) (_ : i < heap.size) (_ : parent i < heap.size), 0 < i → le heap[i] heap[parent i]

variable (le) in
/-- An array in order around a hole: what is left of the order when the element at `hole`
is taken out, and its children are handed to its parent. -/
structure OrderedAround (heap : Array α) (hole : Nat) : Prop where
  /-- The pairs that do not touch the hole are in order. -/
  apart : ∀ (i : Nat) (_ : i < heap.size) (_ : parent i < heap.size), 0 < i → i ≠ hole →
    parent i ≠ hole → le heap[i] heap[parent i]
  /-- The children of the hole are not above its parent. -/
  across : ∀ (i : Nat) (_ : i < heap.size) (_ : parent hole < heap.size), 0 < i →
    parent i = hole → 0 < hole → le heap[i] heap[parent hole]

/-- The children of a position stand at twice the position, plus one or two. -/
theorem eq_of_parent_eq {i j : Nat} (hi : 0 < i) (h : parent i = j) :
    i = 2 * j + 1 ∨ i = 2 * j + 2 := by
  simp only [parent] at h
  omega

/-- A filled hole is a position that is in order with its parent and its children. -/
theorem OrderedAround.isOrdered {heap : Array α} {hole : Nat} (h : OrderedAround le heap hole)
    (above : ∀ (_ : hole < heap.size) (_ : parent hole < heap.size), 0 < hole →
      le heap[hole] heap[parent hole])
    (below : ∀ (i : Nat) (_ : i < heap.size) (_ : hole < heap.size), 0 < i → parent i = hole →
      le heap[i] heap[hole]) : IsOrdered le heap := by
  intro i hlt hplt hi
  by_cases hhole : i = hole
  · subst hhole
    exact above hlt hplt hi
  · by_cases hp : parent i = hole
    · subst hp
      exact below i hlt hplt hi rfl
    · exact h.apart i hlt hplt hi hhole hp

/-- In an ordered array, the element in front is a greatest one. -/
theorem IsOrdered.le_front (htrans : ∀ a b c, le a b → le b c → le a c) (hrefl : ∀ a, le a a)
    {heap : Array α} (h : IsOrdered le heap) (i : Nat) (hi : i < heap.size)
    (h0 : 0 < heap.size) : le heap[i] heap[0] := by
  induction i using Nat.strongRecOn with
  | _ i ih =>
    rcases Nat.eq_zero_or_pos i with rfl | hpos
    · exact hrefl _
    · have hp := Nat.lt_trans (parent_lt hpos) hi
      exact htrans _ _ _ (h i hi hp hpos) (ih (parent i) (parent_lt hpos) hp)

/-- Swapping the element in the hole with its parent moves the hole up. -/
theorem OrderedAround.swap_parent (htrans : ∀ a b c, le a b → le b c → le a c)
    {heap : Array α} {i : Nat} (h : OrderedAround le heap i) (hi : 0 < i) (hlt : i < heap.size)
    (hp : parent i < heap.size) : OrderedAround le (heap.swap i (parent i) hlt hp) (parent i) where
  apart j hjlt hpjlt hj hne hpne := by
    rw [Array.size_swap] at hjlt hpjlt
    by_cases hji : j = i
    · subst hji
      exact absurd rfl hpne
    · by_cases hpji : parent j = i
      · -- a child of the hole: it meets the former parent of the hole
        have hacross := h.across j hjlt hp hj hpji hi
        simpa only [Array.getElem_swap, hji, hne, hpji, if_true, if_false] using hacross
      · have hapart := h.apart j hjlt hpjlt hj hji hpji
        simpa only [Array.getElem_swap, hji, hne, hpji, hpne, if_false] using hapart
  across j hjlt hplt hj hpj hpos := by
    have hpi := parent_lt hi
    have hpp := parent_lt hpos
    have hppi : parent (parent i) ≠ i := by omega
    have hppne : parent (parent i) ≠ parent i := by omega
    rw [Array.size_swap] at hjlt hplt
    -- the other child of the former parent is below it, and it is below its own parent
    have hup := h.apart (parent i) hp hplt hpos (by omega) hppi
    by_cases hji : j = i
    · subst hji
      simpa only [Array.getElem_swap, hppi, hppne, if_true, if_false] using hup
    · have hjne : j ≠ parent i := by have := parent_lt hj; omega
      have hside := h.apart j hjlt (by omega) hj hji (by omega)
      simp only [hpj] at hside
      simpa only [Array.getElem_swap, hji, hjne, hppi, hppne, if_false] using
        htrans _ _ _ hside hup

/-- **Lifting the element in the hole fills the hole**, if that element is not below the
children of the hole. -/
theorem isOrdered_siftUp (htrans : ∀ a b c, le a b → le b c → le a c)
    (htotal : ∀ a b, le a b ∨ le b a) (heap : Array α) (i : Nat)
    (h : OrderedAround le heap i)
    (below : ∀ (j : Nat) (_ : j < heap.size) (_ : i < heap.size), 0 < j → parent j = i →
      le heap[j] heap[i]) : IsOrdered le (siftUp le heap i) := by
  fun_induction siftUp le heap i with
  | case1 heap i hi hp hle => exact h.isOrdered (fun _ _ _ => hle) below
  | case2 heap i hi hp hle ih =>
    have hle' : le heap[parent i] heap[i] := (htotal _ _).resolve_right hle
    -- the parent moves down into the hole, above both children of the hole
    refine ih (h.swap_parent htrans hi.1 hi.2 hp) fun j hlt _ hj hpj => ?_
    have hpi := parent_lt hi.1
    rw [Array.size_swap] at hlt
    by_cases hji : j = i
    · subst hji
      simpa [Array.getElem_swap] using hle'
    · have hjne : j ≠ parent i := by have := parent_lt hj; omega
      have hside := h.apart j hlt (by omega) hj hji (by omega)
      simp only [hpj] at hside
      simpa [Array.getElem_swap, hji, hjne] using htrans _ _ _ hside hle'
  | case3 heap i hi =>
    refine h.isOrdered (fun hlt _ h0 => absurd ⟨h0, hlt⟩ hi) below

/-- Swapping the element in the hole with its greatest child moves the hole down. -/
theorem OrderedAround.swap_child {heap : Array α} {i c : Nat} (h : OrderedAround le heap i)
    (hc : 0 < c) (hpc : parent c = i) (hlt : c < heap.size) (hi : i < heap.size)
    (hgreatest : ∀ (j : Nat) (_ : j < heap.size), 0 < j → parent j = i → j ≠ c →
      le heap[j] heap[c]) : OrderedAround le (heap.swap i c hi hlt) c where
  apart j hjlt hpjlt hj hne hpne := by
    have hic : i < c := hpc ▸ parent_lt hc
    rw [Array.size_swap] at hjlt hpjlt
    by_cases hji : j = i
    · subst hji
      have hpj := parent_lt hj
      have hpjne : parent j ≠ j := by omega
      have hacross := h.across c hlt (Nat.lt_trans hpj hi) hc hpc hj
      simpa only [Array.getElem_swap, hpjne, hpne, if_true, if_false] using hacross
    · by_cases hpji : parent j = i
      · -- the other child of the hole
        have hside := hgreatest j hjlt hj hpji hne
        simpa only [Array.getElem_swap, hji, hne, hpji, if_true, if_false] using hside
      · have hapart := h.apart j hjlt hpjlt hj hji hpji
        simpa only [Array.getElem_swap, hji, hne, hpji, hpne, if_false] using hapart
  across j hjlt hplt hj hpj hpos := by
    have hic : i < c := hpc ▸ parent_lt hc
    have hcj : c < j := hpj ▸ parent_lt hj
    have hji : j ≠ i := by omega
    have hjc : j ≠ c := by omega
    rw [Array.size_swap] at hjlt
    have hapart := h.apart j hjlt (by omega) hj hji (by omega)
    simp only [hpj] at hapart
    simpa only [Array.getElem_swap, hji, hjc, hpc, if_true, if_false] using hapart

/-- **Letting the element in the hole sink** moves the hole to a position without
children. -/
theorem orderedAround_sink (htotal : ∀ a b, le a b ∨ le b a) (heap : Array α) (i : Nat)
    (h : OrderedAround le heap i) :
    OrderedAround le (sink le heap i).1 (sink le heap i).2 ∧
      (sink le heap i).1.size ≤ 2 * (sink le heap i).2 + 1 := by
  fun_induction sink le heap i with
  | case1 heap i hlt hle ih =>
    refine ih (h.swap_child (by omega) (by simp only [parent]; omega) hlt (by omega) ?_)
    intro j hjlt hj hpj hne
    -- the right child moves up, and the left one is its only sibling
    obtain rfl : j = 2 * i + 1 := by
      rcases eq_of_parent_eq hj hpj with h | h <;> omega
    exact hle
  | case2 heap i hlt hle ih =>
    refine ih (h.swap_child (by omega) (by simp only [parent]; omega) (by omega) (by omega) ?_)
    intro j hjlt hj hpj hne
    -- the left child moves up
    obtain rfl : j = 2 * i + 2 := by
      rcases eq_of_parent_eq hj hpj with h | h <;> omega
    exact (htotal _ _).resolve_left hle
  | case3 heap i hlt hlt' =>
    refine ⟨h.swap_child (by omega) (by simp only [parent]; omega) hlt' (by omega) ?_, ?_⟩
    -- an only child moves up
    · intro j hjlt hj hpj hne
      rcases eq_of_parent_eq hj hpj with h | h <;> omega
    · rw [Array.size_swap]
      omega
  | case4 heap i hlt hlt' =>
    refine ⟨h, ?_⟩
    change heap.size ≤ 2 * i + 1
    omega

theorem isOrdered_empty : IsOrdered le (#[] : Array α) := fun _ h => absurd h (Nat.not_lt_zero _)

/-- **Pushing keeps the order.** -/
theorem IsOrdered.push (htrans : ∀ a b c, le a b → le b c → le a c)
    (htotal : ∀ a b, le a b ∨ le b a) {heap : Array α} (h : IsOrdered le heap) (x : α) :
    IsOrdered le (push le heap x) := by
  refine isOrdered_siftUp htrans htotal (heap.push x) heap.size ⟨?_, ?_⟩ ?_
  · intro i hlt hplt hi hne hpne
    rw [Array.size_push] at hlt hplt
    have hold := h i (by omega) (by omega) hi
    rwa [Array.getElem_push_lt (by omega), Array.getElem_push_lt (by omega)]
  · intro i hlt _ hi hp _
    have hpi := parent_lt hi
    rw [Array.size_push] at hlt
    omega
  · intro i hlt _ hi hp
    have hpi := parent_lt hi
    rw [Array.size_push] at hlt
    omega

/-- Taking off the last element keeps the order. -/
theorem IsOrdered.pop {heap : Array α} (h : IsOrdered le heap) : IsOrdered le heap.pop := by
  intro i hlt hplt hi
  rw [Array.size_pop] at hlt hplt
  simpa only [Array.getElem_pop] using h i (by omega) (by omega) hi

/-- Replacing the front element leaves a hole there. -/
theorem IsOrdered.around_set {heap : Array α} (h : IsOrdered le heap) (x : α)
    (hpos : 0 < heap.size) : OrderedAround le (heap.set 0 x) 0 where
  apart i hlt hplt hi hne hpne := by
    rw [Array.size_set] at hlt hplt
    rw [Array.getElem_set_ne _ hlt (Ne.symm hne), Array.getElem_set_ne _ hplt (Ne.symm hpne)]
    exact h i hlt hplt hi
  across _ _ _ _ _ h0 := absurd h0 (Nat.lt_irrefl 0)

/-- **Popping keeps the order.** -/
theorem IsOrdered.pop? (htrans : ∀ a b c, le a b → le b c → le a c)
    (htotal : ∀ a b, le a b ∨ le b a) {heap rest : Array α} {top : α} (h : IsOrdered le heap)
    (hpop : pop? le heap = some (top, rest)) : IsOrdered le rest := by
  unfold Heap.pop? at hpop
  split at hpop
  case isFalse => exact absurd hpop (by simp)
  case isTrue hpos =>
    simp only at hpop
    split at hpop
    case isFalse hrest =>
      obtain ⟨-, rfl⟩ := Prod.mk.inj (Option.some.inj hpop)
      exact h.pop
    case isTrue hrest =>
      obtain ⟨-, rfl⟩ := Prod.mk.inj (Option.some.inj hpop)
      obtain ⟨haround, hleaf⟩ := orderedAround_sink htotal _ 0
        (h.pop.around_set heap[heap.size - 1] hrest)
      -- nothing is below the hole any more, so lifting the element fills it
      refine isOrdered_siftUp htrans htotal _ _ haround fun j hlt _ hj hp => ?_
      rcases eq_of_parent_eq hj hp with h | h <;> omega

end Telemetry.Sampling.Heap
