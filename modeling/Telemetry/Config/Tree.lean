import Telemetry.Json.Value

/-!
# Configuration trees

A configuration is read from a tree of records, maps and scalars. Which scalar stands for
what depends on the data format, so reading is told by a `TreeReader` what it needs to know
about the nodes of a format; `TreeReader.json` is the one for JSON values.

A record leaves out what it does not set. That is what `TreeReader.field` is for: a field
that is there must be readable, and one that is not there has its default.
-/

namespace Telemetry.Config

/-- How the nodes of a data format are read. -/
structure TreeReader (N : Type) where
  bool? : N → Option Bool
  /-- A number that fits into 64 bits. -/
  nat? : N → Option Nat
  float? : N → Option Float
  text? : N → Option String
  /-- The name of one of several choices. -/
  choice? : N → Option String
  /-- Whether a node stands for a value that is not there. -/
  isAbsent? : N → Option Bool
  /-- The parts of a record that has the given fields, by name. -/
  record? : List String → N → Option (List (String × N))
  /-- The entries of a map, by name. -/
  map? : N → Option (List (String × N))

namespace TreeReader

variable {N α : Type}

/-- A field of a record by its name: read if it is there, else the default. -/
def field (parts : List (String × N)) (name : String) (read : N → Option α) (default : α) :
    Option α :=
  match parts.lookup name with
  | some n => read n
  | none => some default

/-- A value that may be absent. -/
def optional (t : TreeReader N) (read : N → Option α) (n : N) : Option (Option α) :=
  (t.isAbsent? n).bind fun isAbsent => if isAbsent then some none else (read n).map some

/-- A value chosen by name. -/
def chosen (t : TreeReader N) (ofName? : String → Option α) (n : N) : Option α :=
  (t.choice? n).bind ofName?

/-- The values of a map, each read alike. -/
def entries (t : TreeReader N) (read : N → Option α) (n : N) : Option (List (String × α)) :=
  (t.map? n).bind fun entries => entries.mapM fun (name, n) => (read n).map (name, ·)

end TreeReader

/-- The parts of a record: the fields of an object, or the items of an array one after the
other. An array may stop early, but has no more items than the record has fields. -/
def recordParts? (names : List String) : Json → Option (List (String × Json))
  | .obj fields => some fields
  | .arr items => if items.length ≤ names.length then some (names.zip items) else none
  | _ => none

/-- How JSON values are read: a choice is its name, or an object with nothing but that name. -/
def TreeReader.json : TreeReader Json where
  bool?
    | .bool b => some b
    | _ => none
  nat? := Json.nat64?
  float? := Json.float?
  text?
    | .str s => some s
    | _ => none
  choice?
    | .str s => some s
    | .obj [(name, .null)] => some name
    | _ => none
  isAbsent?
    | .null => some true
    | _ => some false
  record? := recordParts?
  map?
    | .obj fields => some fields
    | _ => none

end Telemetry.Config
