import Telemetry.Log.Rule

/-!
# Which log records are shown

A filter is a list of rules. Of those that apply to a record the one with the longest source
decides, then one that asks for a field before one that does not, then the later one
(`Filter.decisive?`). A user writes rules between commas.
-/

namespace Telemetry.Log

/-- Rules, of which the later ones count. -/
structure Filter where
  rules : List Rule
  deriving DecidableEq, Repr

namespace Filter

/-- The rule of two that counts; the second is the later one. -/
def stronger (first : Option Rule) (second : Rule) : Rule :=
  match first with
  | some r => if r.outranks second then r else second
  | none => second

/-- The rule that decides about a record. -/
def decisive? (f : Filter) (record : Record) : Option Rule :=
  (f.rules.filter (·.appliesTo record)).foldl (fun best r => some (stronger best r)) none

/-- **Whether a record is shown.** -/
def shows (f : Filter) (record : Record) : Bool :=
  (f.decisive? record).any (·.level.shows record.severity)

/-- The filter of a program that is not asked for another one: its own records are shown up to
a level, and those of others up to `info`. -/
def standard (level : Level) : Filter :=
  ⟨[{ level := .upTo .info }, { start := "harvest", level := level }]⟩

/-- The texts of the rules of a filter. -/
def ruleTexts (text : String) : List String := (Text.parts ',' text).filter (· ≠ "")

/-- What a user is told about the texts of rules that are left out, and the other rules. A rule
that cannot be cut into parts ends the reading, and then there are none. -/
def readRules : List String → List String × Option (List Rule)
  | [] => ([], some [])
  | text :: rest =>
    match Rule.parse text with
    | .ok rule =>
      let (told, rules) := readRules rest
      (told, rules.map (rule :: ·))
    | .error fault =>
      match fault.message? with
      | none => ([], none)
      | some message =>
        let (told, rules) := readRules rest
        (("ignoring \x60" ++ text ++ "\x60: " ++ message) :: told, rules)

/-- Some rules as a filter. Without a rule, errors are shown. -/
def ofRules : List Rule → Filter
  | [] => ⟨[{ level := .upTo .error }]⟩
  | rules => ⟨rules⟩

/-- **The filter of a text**, unless reading it comes to an end too early. -/
def parse? (text : String) : Option Filter := (readRules (ruleTexts text)).2.map ofRules

/-- What a user is told about the text of a filter. -/
def complaints (text : String) : List String := (readRules (ruleTexts text)).1

end Filter

end Telemetry.Log
