/-!
# JSON values

A number is kept as an integer if it is written as one and fits into 64 bits, and
as a double otherwise: `1` and `1.0` are different values. Minus zero is a double,
however it is written. The fields of an object keep their order.
-/

namespace Telemetry

/-- A JSON value. -/
inductive Json
  | null
  | bool (b : Bool)
  | int (n : Int)
  | real (x : Float)
  | str (s : String)
  | arr (items : List Json)
  | obj (fields : List (String × Json))
  deriving Inhabited

namespace Json

/-- The value of a field of an object. -/
def field? (name : String) : Json → Option Json
  | .obj fields => fields.lookup name
  | _ => none

/-- A number that fits into 64 bits. -/
def nat64? : Json → Option Nat
  | .int n => if 0 ≤ n then some n.toNat else none
  | _ => none

/-- A number as a double. -/
def float? : Json → Option Float
  | .int n => some (Float.ofInt n)
  | .real x => some x
  | _ => none

/-- A natural number. -/
def ofNat (n : Nat) : Json := .int n

/-- A list of natural numbers. -/
def ofNats (ns : List Nat) : Json := .arr (ns.map ofNat)

/-- A list of strings. -/
def ofStrings (ss : List String) : Json := .arr (ss.map .str)

/-- The value, or `null` if there is none. -/
def ofOption {α : Type} (encode : α → Json) (x : Option α) : Json := x.elim .null encode

/-- Sets a field: in its place if the object has it already, else at the end. -/
def setField (name : String) (value : Json) (fields : List (String × Json)) :
    List (String × Json) :=
  if fields.any (·.1 == name) then
    fields.map fun f => if f.1 == name then (name, value) else f
  else fields ++ [(name, value)]

end Json

end Telemetry
