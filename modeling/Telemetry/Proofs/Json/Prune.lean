import Telemetry.Json.Value

/-!
# Deleting fields of a JSON value

A place in a value is the path of names that leads to a field. `Json.prune` deletes the fields at
any set of places; with a field, all that is in it goes. What is left of the fields of an object
is told by their look-up (`Json.lookup_pruneFields`) and, where they are the entries of a map, by
`Json.pruneFields_map`.
-/

namespace Telemetry

/-- A set of places in a value, each of them the path of names that leads there. -/
abbrev Places := List String → Bool

namespace Places

/-- The places inside a field, as seen from there. -/
def inside (places : Places) (name : String) : Places := fun path => places (name :: path)

end Places

namespace Json

mutual

/-- The value without the fields at some places. The items of an array have no names, so no place
leads into them. -/
def prune (gone : Places) : Json → Json
  | .obj fields => .obj (pruneFields gone fields)
  | j => j

/-- What is left of the fields of an object. -/
def pruneFields (gone : Places) : List (String × Json) → List (String × Json)
  | [] => []
  | (name, j) :: rest =>
    if gone [name] then pruneFields gone rest
    else (name, j.prune (gone.inside name)) :: pruneFields gone rest

end

variable {gone : Places}

mutual

/-- **Nothing is deleted** at no place. -/
theorem prune_nowhere : ∀ j : Json, j.prune (fun _ => false) = j
  | .obj fields => by rw [prune, pruneFields_nowhere fields]
  | .null | .bool _ | .int _ | .real _ | .str _ | .arr _ => rfl

theorem pruneFields_nowhere :
    ∀ fields : List (String × Json), pruneFields (fun _ => false) fields = fields
  | [] => rfl
  | (name, j) :: rest => by
    rw [pruneFields, if_neg Bool.false_ne_true, pruneFields_nowhere rest]
    exact congrArg (fun v => (name, v) :: rest) (prune_nowhere j)

end

/-- **A field that is left** is found under its name, without what is gone of it. -/
theorem lookup_pruneFields (name : String) (fields : List (String × Json)) :
    (pruneFields gone fields).lookup name =
      if gone [name] then none else (fields.lookup name).map (·.prune (gone.inside name)) := by
  induction fields with
  | nil => simp [pruneFields]
  | cons field rest ih =>
    obtain ⟨key, j⟩ := field
    rw [pruneFields]
    by_cases hkey : name = key
    · subst hkey
      split
      next hgone => rw [ih, if_pos hgone]
      next => simp
    · have hne : (name == key) = false := beq_false_of_ne hkey
      split
      next => rw [ih, List.lookup_cons, hne]
      next => rw [List.lookup_cons, hne, ih, List.lookup_cons, hne]

/-- **The entries of a map** that are left. -/
theorem pruneFields_map {α : Type} (encode : α → Json) (entries : List (String × α)) :
    pruneFields gone (entries.map fun (name, x) => (name, encode x)) =
      (entries.filter fun e => !gone [e.1]).map fun (name, x) =>
        (name, (encode x).prune (gone.inside name)) := by
  induction entries with
  | nil => rfl
  | cons entry rest ih =>
    rw [List.map_cons, pruneFields, ih, List.filter_cons]
    cases gone [entry.1] <;> rfl

end Json

end Telemetry
