import Telemetry.Dict
import Mathlib.Algebra.Order.Group.Multiset

/-!
# The values and the entries of a map

How the operations of `Telemetry.Dict` change the multiset of values: a value that is set
joins it, and the one it replaces leaves (`Dict.values_insert`); an erased value leaves
(`Dict.values_erase`), and filtering only takes values away (`Dict.values_filter_le`).

A map can be written out as its entries and read back from them (`Dict.ofList_entries`).
-/

namespace Telemetry.Dict

variable {α : Type}

theorem find_eq_some_iff {key : String} {v : α} :
    ∀ {l : List (String × α)}, l.Pairwise (fun a b => a.1 < b.1) →
      (find key l = some v ↔ (key, v) ∈ l)
  | [], _ => by simp [find]
  | (k, w) :: rest, h => by
    have hrest := List.pairwise_cons.1 h
    have ih : find key rest = some v ↔ (key, v) ∈ rest := find_eq_some_iff hrest.2
    by_cases hk : key = k
    · subst hk
      have hnot : (key, v) ∉ rest := fun hmem =>
        String.lt_irrefl _ (hrest.1 (key, v) hmem)
      simp [find, hnot, eq_comm]
    · simp [find, hk, ih]

/-- A value is found somewhere exactly if it is one of the values. -/
theorem mem_values_iff {d : Dict α} {v : α} : v ∈ d.values ↔ ∃ key, d.get? key = some v := by
  simp only [values, get?, find_eq_some_iff d.sorted, List.mem_map, Prod.exists, exists_eq_right]

/-- Names above `key` are other names. -/
theorem filter_ne_eq_self {key : String} {l : List (String × α)} (h : ∀ e ∈ l, key < e.1) :
    l.filter (·.1 ≠ key) = l :=
  List.filter_eq_self.2 fun e he => by
    have hne : e.1 ≠ key := fun heq => String.lt_irrefl _ (heq ▸ h e he)
    simpa using hne

/-- The values of sorted entries: that of a name, and the others. -/
theorem values_split (key : String) :
    ∀ {l : List (String × α)}, l.Pairwise (fun a b => a.1 < b.1) →
      (l.map (·.2)).Perm ((find key l).toList ++ (l.filter (·.1 ≠ key)).map (·.2))
  | [], _ => .refl _
  | (k, v) :: rest, h => by
    have hrest := List.pairwise_cons.1 h
    have ih := values_split key hrest.2
    by_cases hk : key = k
    · subst hk
      rw [find, if_pos rfl, List.filter_cons, if_neg (by simp), filter_ne_eq_self hrest.1]
      exact .refl _
    · have hkeep : ((k, v) :: rest).filter (·.1 ≠ key) = (k, v) :: rest.filter (·.1 ≠ key) := by
        rw [List.filter_cons, if_pos (by simpa using fun heq => hk heq.symm)]
      rw [hkeep, find, if_neg hk]
      exact (ih.cons v).trans List.perm_middle.symm

/-- Inserted entries: the new one, and the others. -/
theorem insertSorted_perm (key : String) (v : α) :
    ∀ {l : List (String × α)}, l.Pairwise (fun a b => a.1 < b.1) →
      (insertSorted key v l).Perm ((key, v) :: l.filter (·.1 ≠ key))
  | [], _ => .refl _
  | (k, w) :: rest, h => by
    have hrest := List.pairwise_cons.1 h
    have ih := insertSorted_perm key v hrest.2
    rw [insertSorted]
    split
    next hlt =>
      rw [filter_ne_eq_self]
      intro e he
      rcases List.mem_cons.1 he with rfl | he
      · exact hlt
      · exact String.lt_trans hlt (hrest.1 e he)
    next hge =>
      split
      next heq =>
        subst heq
        rw [List.filter_cons, if_neg (by simp), filter_ne_eq_self hrest.1]
      next hne =>
        rw [List.filter_cons, if_pos (by simpa using fun heq => hne heq.symm)]
        exact (ih.cons (k, w)).trans (.swap ..)

/-- **Erasure** takes one value away. -/
theorem values_erase (d : Dict α) (key : String) :
    ((d.erase key).values : Multiset α) + (d.get? key).toList = d.values := by
  rw [Multiset.add_comm, Multiset.coe_add]
  exact (Multiset.coe_eq_coe.2 (values_split key d.sorted)).symm

/-- **Insertion** adds a value, and takes away the one that it replaces. -/
theorem values_insert (d : Dict α) (key : String) (v : α) :
    ((d.insert key v).values : Multiset α) + (d.get? key).toList =
      v ::ₘ (d.values : Multiset α) := by
  have hperm : (d.insert key v).values.Perm (v :: (d.erase key).values) :=
    (insertSorted_perm key v d.sorted).map Prod.snd
  rw [Multiset.coe_eq_coe.2 hperm, ← Multiset.cons_coe, Multiset.cons_add, values_erase]

theorem values_filter_le (d : Dict α) (p : String → α → Bool) :
    ((d.filter p).values : Multiset α) ≤ d.values :=
  Multiset.coe_le.2 ((List.filter_sublist (l := d.entries)).map _).subperm

theorem values_nodup {d : Dict α}
    (h : ∀ key key' v, d.get? key = some v → d.get? key' = some v → key = key') :
    d.values.Nodup := by
  have hkeys : d.entries.Pairwise (fun a b => a.2 ≠ b.2) := by
    refine d.sorted.imp_of_mem fun {a b} ha hb hlt heq => ?_
    have hkey := h a.1 b.1 a.2 ((find_eq_some_iff d.sorted).2 ha)
      ((find_eq_some_iff d.sorted).2 (heq ▸ hb))
    exact String.lt_irrefl _ (hkey ▸ hlt)
  exact List.pairwise_map.2 hkeys

/-! ### Maps from their entries -/

/-- The map with other values. -/
def mapValues {β : Type} (f : String → α → β) (d : Dict α) : Dict β where
  entries := d.entries.map fun e => (e.1, f e.1 e.2)
  sorted := List.pairwise_map.2 d.sorted

theorem mapValues_eq_self (d : Dict α) : d.mapValues (fun _ x => x) = d :=
  Dict.ext (List.map_id d.entries)

theorem filter_true (d : Dict α) : d.filter (fun _ _ => true) = d :=
  Dict.ext (List.filter_eq_self.2 fun _ _ => rfl)

theorem insertSorted_of_lt {name : String} {value : α} :
    ∀ {l : List (String × α)}, (∀ e ∈ l, e.1 < name) →
      insertSorted name value l = l ++ [(name, value)]
  | [], _ => rfl
  | (k, v) :: rest, h => by
    have hk : k < name := h (k, v) List.mem_cons_self
    have hne : name ≠ k := fun heq => String.lt_irrefl k (heq ▸ hk)
    rw [insertSorted, if_neg (String.lt_asymm hk), if_neg hne,
      insertSorted_of_lt fun e he => h e (List.mem_cons_of_mem _ he)]
    rfl

/-- Entries with greater and greater names are added one after the other. -/
theorem entries_foldl_insert (l : List (String × α)) (d : Dict α)
    (h : (d.entries ++ l).Pairwise (fun a b => a.1 < b.1)) :
    (l.foldl (fun d e => d.insert e.1 e.2) d).entries = d.entries ++ l := by
  induction l generalizing d with
  | nil => exact (List.append_nil _).symm
  | cons e rest ih =>
    have hlast : (d.insert e.1 e.2).entries = d.entries ++ [e] :=
      insertSorted_of_lt fun e' he' =>
        (List.pairwise_append.1 h).2.2 e' he' e List.mem_cons_self
    rw [List.foldl_cons, ih _ (by rwa [hlast, List.append_assoc]), hlast, List.append_assoc]
    rfl

/-- **A map is that of its entries.** -/
theorem ofList_entries (d : Dict α) : ofList d.entries = d :=
  Dict.ext (entries_foldl_insert d.entries empty d.sorted)

end Telemetry.Dict
