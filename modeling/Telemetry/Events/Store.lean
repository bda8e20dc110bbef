import Telemetry.Dict

/-!
# The live reservoirs of all applications

Each application has at most one live reservoir of each kind. The store only knows
which one it is: its values may be reservoirs themselves or references to them.
-/

namespace Telemetry.Events

/-- The two classes of transaction events. -/
inductive Kind
  /-- Events from regular traffic. -/
  | ordinary
  /-- Events from synthetic monitoring. -/
  | synthetic
  deriving DecidableEq, Repr

namespace Kind

/-- The name in metric tags. -/
def name : Kind → String
  | .ordinary => "ordinary"
  | .synthetic => "synthetic"

/-- The label of reservoirs of this kind. -/
def service : Kind → String
  | .ordinary => "Transaction Event Service"
  | .synthetic => "Synthetics Event Service"

end Kind

/-- The live reservoirs by kind and application. -/
structure Store (α : Type) where
  ordinary : Dict α := .empty
  synthetic : Dict α := .empty
  deriving Inhabited

namespace Store

variable {α : Type}

/-- The live reservoirs of one kind. -/
def ofKind (s : Store α) : Kind → Dict α
  | .ordinary => s.ordinary
  | .synthetic => s.synthetic

/-- Changes the live reservoirs of one kind. -/
def mapKind (s : Store α) (kind : Kind) (f : Dict α → Dict α) : Store α :=
  match kind with
  | .ordinary => { s with ordinary := f s.ordinary }
  | .synthetic => { s with synthetic := f s.synthetic }

/-- The live reservoir of an application. -/
def get? (s : Store α) (kind : Kind) (app : String) : Option α := (s.ofKind kind).get? app

/-- Makes a reservoir the live one; whatever was live before is only replaced. -/
def set (s : Store α) (kind : Kind) (app : String) (x : α) : Store α :=
  s.mapKind kind (·.insert app x)

/-- Leaves an application without a live reservoir of a kind. -/
def remove (s : Store α) (kind : Kind) (app : String) : Store α :=
  s.mapKind kind (·.erase app)

/-- Leaves all applications without a live reservoir of a kind. -/
def clear (s : Store α) (kind : Kind) : Store α := s.mapKind kind fun _ => .empty

/-- The live reservoir of an application; if there is none, the given one becomes it,
which the flag tells. -/
def getOrSet (s : Store α) (kind : Kind) (app : String) (x : α) : Bool × α × Store α :=
  match s.get? kind app with
  | some y => (false, y, s)
  | none => (true, x, s.set kind app x)

@[simp] theorem get?_set (s : Store α) (kind kind' : Kind) (app app' : String) (x : α) :
    (s.set kind app x).get? kind' app' =
      if kind' = kind ∧ app' = app then some x else s.get? kind' app' := by
  cases kind <;> cases kind' <;> simp [set, get?, mapKind, ofKind]

@[simp] theorem get?_remove (s : Store α) (kind kind' : Kind) (app app' : String) :
    (s.remove kind app).get? kind' app' =
      if kind' = kind ∧ app' = app then none else s.get? kind' app' := by
  cases kind <;> cases kind' <;> simp [remove, get?, mapKind, ofKind]

@[simp] theorem get?_clear (s : Store α) (kind kind' : Kind) (app : String) :
    (s.clear kind).get? kind' app = if kind' = kind then none else s.get? kind' app := by
  cases kind <;> cases kind' <;> simp [clear, get?, mapKind, ofKind]

end Store

end Telemetry.Events
