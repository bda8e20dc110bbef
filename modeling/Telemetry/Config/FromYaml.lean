import Telemetry.Config.Decode
import Telemetry.Yaml.Node
import Telemetry.Yaml.Scalar

/-!
# Configurations in YAML

What a scalar of a YAML document can stand for depends on how it is written: only a plain
one is a number or a truth value, and any is a string. A place where nothing is written is an
empty section. An alias is read as the node it stands for.
-/

namespace Telemetry.Config

open Yaml (Node Document ScalarStyle)

/-- A node in its document. -/
structure YamlTree where
  document : Document
  node : Node

namespace YamlTree

/-- Another node of the same document. -/
def withNode (t : YamlTree) (n : Node) : YamlTree := { t with node := n }

/-- The node itself, or the one that it stands for. -/
def target? (t : YamlTree) : Option Node :=
  match t.node with
  | .alias number => t.document.find? number
  | n => some n

/-- The tag of a standard type. -/
def standardTag (type : String) : String := "tag:yaml.org,2002:" ++ type

/-- The text of a scalar that can be of a type: a plain one, or a block with the tag of that
type. -/
def textAs? (type : String) (t : YamlTree) : Option String :=
  match t.target? with
  | some (.scalar _ .plain text) => some text
  | some (.scalar tag .literal text) => if tag = some (standardTag type) then some text else none
  | _ => none

/-- The text of any scalar. -/
def text? (t : YamlTree) : Option String :=
  match t.target? with
  | some (.scalar _ _ text) => some text
  | _ => none

/-- Whether a plain scalar says that nothing is there. -/
def saysNothing (text : String) : Bool := text.isEmpty || Yaml.isNullWord text

/-- The name of a tag that belongs to the document alone. -/
def localTag? (tag : Option String) : Option String :=
  tag.bind fun tag => if tag.startsWith "!" then some (tag.drop 1).toString else none

/-- The name of a choice: a tag of the document's own, with nothing behind it, or a scalar. -/
def choice? (t : YamlTree) : Option String :=
  match t.target? with
  | some (.scalar tag style text) =>
    match localTag? tag with
    | some name => if style = .plain && saysNothing text then some name else none
    | none => some text
  | _ => none

/-- Whether a node stands for nothing. A tag decides that, unless it is the one for nothing,
which goes with no other word. -/
def isAbsent? (t : YamlTree) : Option Bool := do
  match ← t.target? with
  | .scalar none .plain text => some (saysNothing text)
  | .scalar (some tag) .plain text =>
    if tag = standardTag "null" then if Yaml.isNullWord text then some true else none
    else some false
  | _ => some false

/-- The entries of a mapping by the texts of their keys; where nothing is written there are
none. -/
def entries? (t : YamlTree) : Option (List (String × YamlTree)) := do
  match ← t.target? with
  | .mapping entries => entries.mapM fun (k, v) => (t.withNode k).text?.map (·, t.withNode v)
  | .scalar _ .plain "" => some []
  | _ => none

/-- The parts of a record, none of whose fields may be given twice. -/
def record? (names : List String) (t : YamlTree) : Option (List (String × YamlTree)) := do
  let entries ← t.entries?
  let given := (entries.map (·.1)).filter names.contains
  if given.eraseDups.length = given.length then some entries else none

end YamlTree

/-- How YAML documents are read. -/
def TreeReader.yaml : TreeReader YamlTree where
  bool? t := (t.textAs? "bool").bind Yaml.boolWord?
  nat? t := (t.textAs? "int").bind Yaml.nat64?
  float? t := (t.textAs? "float").bind Yaml.float?
  text? := YamlTree.text?
  choice? := YamlTree.choice?
  isAbsent? := YamlTree.isAbsent?
  record? := YamlTree.record?
  map? := YamlTree.entries?

/-- The settings of a YAML text; if there are none, from which file is told. -/
def Settings.ofYaml (path text : String) : Except Error Settings :=
  match (Document.read? text).bind fun d => Settings.read? .yaml ⟨d, d.root⟩ with
  | some s => .ok s
  | none => .error { kind := .badYaml, origin := .file path }

end Telemetry.Config
