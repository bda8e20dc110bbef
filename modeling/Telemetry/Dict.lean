/-!
# Finite maps from names

A `Dict` keeps one value per name, sorted by name, so two maps with the same
content are equal. Names are compared code point by code point.

| operation | what the map holds afterwards |
|---|---|
| `Dict.insert` | the new value under its name (`Dict.get?_insert`) |
| `Dict.erase` | nothing under that name (`Dict.get?_erase`) |
| `Dict.filter` | the entries that satisfy a test (`Dict.get?_filter`) |
-/

namespace Telemetry

/-- A finite map from names, sorted by name. -/
@[ext] structure Dict (α : Type) where
  entries : List (String × α)
  sorted : entries.Pairwise (fun a b => a.1 < b.1) := by simp

namespace Dict

variable {α : Type}

/-- The map without entries. -/
def empty : Dict α := ⟨[], List.Pairwise.nil⟩

instance : Inhabited (Dict α) := ⟨empty⟩

instance [Repr α] : Repr (Dict α) := ⟨fun d n => reprPrec d.entries n⟩

instance [DecidableEq α] : DecidableEq (Dict α) := fun a b =>
  decidable_of_iff (a.entries = b.entries) ⟨Dict.ext, fun h => h ▸ rfl⟩

/-- The value of the first entry of a name. -/
def find (name : String) : List (String × α) → Option α
  | [] => none
  | (k, v) :: rest => if name = k then some v else find name rest

/-- The value of a name. -/
def get? (d : Dict α) (name : String) : Option α := find name d.entries

/-- Whether a name has a value. -/
def contains (d : Dict α) (name : String) : Bool := (d.get? name).isSome

/-- The names, sorted. -/
def keys (d : Dict α) : List String := d.entries.map (·.1)

/-- The values, in the order of their names. -/
def values (d : Dict α) : List α := d.entries.map (·.2)

/-- The number of entries. -/
def size (d : Dict α) : Nat := d.entries.length

/-- Whether there are no entries. -/
def isEmpty (d : Dict α) : Bool := d.entries.isEmpty

/-- Puts an entry in its place among sorted entries. -/
def insertSorted (name : String) (value : α) : List (String × α) → List (String × α)
  | [] => [(name, value)]
  | (k, v) :: rest =>
    if name < k then (name, value) :: (k, v) :: rest
    else if name = k then (name, value) :: rest
    else (k, v) :: insertSorted name value rest

theorem mem_insertSorted {name : String} {value : α} {e : String × α} :
    ∀ {l : List (String × α)}, e ∈ insertSorted name value l → e = (name, value) ∨ e ∈ l
  | [], h => by simpa [insertSorted] using h
  | (k, v) :: rest, h => by
    simp only [insertSorted] at h
    split at h
    · simpa using h
    · split at h
      · rcases List.mem_cons.1 h with h | h
        · exact .inl h
        · exact .inr (List.mem_cons_of_mem _ h)
      · rcases List.mem_cons.1 h with h | h
        · exact .inr (h ▸ List.mem_cons_self)
        · rcases mem_insertSorted h with h | h
          · exact .inl h
          · exact .inr (List.mem_cons_of_mem _ h)

/-- Names that are neither below nor equal are above. -/
theorem lt_of_not_lt_of_ne {a b : String} (h : ¬ a < b) (hne : a ≠ b) : b < a := by
  rcases Decidable.em (b < a) with h' | h'
  · exact h'
  · exact absurd (String.le_antisymm (String.not_lt.1 h') (String.not_lt.1 h)) hne

theorem sorted_insertSorted (name : String) (value : α) :
    ∀ {l : List (String × α)}, l.Pairwise (fun a b => a.1 < b.1) →
      (insertSorted name value l).Pairwise (fun a b => a.1 < b.1)
  | [], _ => by simp [insertSorted]
  | (k, v) :: rest, h => by
    simp only [insertSorted]
    have hrest := List.pairwise_cons.1 h
    split
    next hlt =>
      refine List.pairwise_cons.2 ⟨fun e he => ?_, h⟩
      rcases List.mem_cons.1 he with rfl | he
      · exact hlt
      · exact String.lt_trans hlt (hrest.1 e he)
    next hge =>
      split
      next heq => subst heq; exact List.pairwise_cons.2 ⟨hrest.1, hrest.2⟩
      next hne =>
        refine List.pairwise_cons.2 ⟨fun e he => ?_, sorted_insertSorted name value hrest.2⟩
        rcases mem_insertSorted he with rfl | he
        · exact lt_of_not_lt_of_ne hge hne
        · exact hrest.1 e he

/-- Sets the value of a name. -/
def insert (d : Dict α) (name : String) (value : α) : Dict α :=
  ⟨insertSorted name value d.entries, sorted_insertSorted name value d.sorted⟩

/-- Keeps the entries that satisfy a test. -/
def filter (d : Dict α) (p : String → α → Bool) : Dict α :=
  ⟨d.entries.filter fun e => p e.1 e.2, d.sorted.filter _⟩

/-- Removes the entry of a name. -/
def erase (d : Dict α) (name : String) : Dict α := d.filter fun k _ => k ≠ name

/-- The map of some entries; of a name given twice, the last value counts. -/
def ofList (entries : List (String × α)) : Dict α :=
  entries.foldl (fun d e => d.insert e.1 e.2) empty

/-! ### What a look-up finds -/

theorem find_insertSorted (name key : String) (value : α) :
    ∀ l : List (String × α),
      find key (insertSorted name value l) = if key = name then some value else find key l
  | [] => rfl
  | (k, v) :: rest => by
    have ih := find_insertSorted name key value rest
    simp only [insertSorted]
    split
    next => rfl
    next =>
      split
      next heq => subst heq; by_cases hk : key = name <;> simp [find, hk]
      next hne =>
        simp only [find, ih]
        by_cases hk : key = k
        · subst hk; simp [Ne.symm hne]
        · simp [hk]

/-- **Insertion** changes the value of one name only. -/
@[simp] theorem get?_insert (d : Dict α) (name key : String) (value : α) :
    (d.insert name value).get? key = if key = name then some value else d.get? key :=
  find_insertSorted name key value d.entries

@[simp] theorem get?_empty (key : String) : (empty : Dict α).get? key = none := rfl

theorem find_eq_none {key : String} :
    ∀ {l : List (String × α)}, (∀ e ∈ l, key ≠ e.1) → find key l = none
  | [], _ => rfl
  | (k, v) :: rest, h => by
    have hk : key ≠ k := h (k, v) List.mem_cons_self
    simpa [find, hk] using find_eq_none fun e he => h e (List.mem_cons_of_mem _ he)

theorem find_filter (p : String → α → Bool) (key : String) :
    ∀ l : List (String × α), l.Pairwise (fun a b => a.1 < b.1) →
      find key (l.filter fun e => p e.1 e.2) = (find key l).filter (p key)
  | [], _ => rfl
  | (k, v) :: rest, h => by
    have hrest := List.pairwise_cons.1 h
    have ih := find_filter p key rest hrest.2
    by_cases hk : key = k
    · subst hk
      have hnone : find key rest = none :=
        find_eq_none fun e he heq => String.lt_irrefl _ (heq ▸ hrest.1 e he)
      cases hp : p key v <;> simp [hp, find, ih, hnone, Option.filter]
    · cases hp : p k v <;> simp [hp, find, ih, hk]

/-- **Filtering** keeps exactly the values that satisfy the test. -/
@[simp] theorem get?_filter (d : Dict α) (p : String → α → Bool) (key : String) :
    (d.filter p).get? key = (d.get? key).filter (p key) :=
  find_filter p key d.entries d.sorted

/-- **Erasure** takes away the value of one name only. -/
@[simp] theorem get?_erase (d : Dict α) (name key : String) :
    (d.erase name).get? key = if key = name then none else d.get? key := by
  rw [erase, get?_filter]
  by_cases h : key = name
  · subst h; cases d.get? key <;> simp
  · cases d.get? key <;> simp [h]

end Dict

end Telemetry
