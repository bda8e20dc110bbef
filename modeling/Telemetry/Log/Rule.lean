import Telemetry.Log.Record
import Telemetry.Text.Alphanumeric
import Telemetry.Text.Natural
import Telemetry.Text.Split
import Telemetry.Text.WhiteSpace

/-!
# Rules about log records

A rule sets a level for the records whose source starts with some text, or for those of them
that have a field. A user writes it in one of these forms:

| text | about |
|---|---|
| `level` | all records |
| `source`, `source=level` | those of a source |
| `source[{field}]=level` | those of a source that have a field |
| `source[span{field=value}]=level` | those inside a span, of which there are none |

In a form with brackets, the source and the level may be left out. What has no level is shown
in full. Where the parts of a rule stand is found without the white space around it, but they
are cut out of the text as it is given; so with white space in front they are others, and may
begin or end inside a character.
-/

namespace Telemetry.Log

/-- What a rule asks of a record besides its source. -/
inductive Condition
  | nothing
  /-- It has a field of a name. -/
  | field (name : String)
  /-- It is inside a span, which no record is. -/
  | span
  deriving DecidableEq, Repr

/-- How much is shown of some records. -/
structure Rule where
  /-- What the source of a record has to start with. -/
  start : String := ""
  condition : Condition := .nothing
  level : Level
  deriving DecidableEq, Repr

/-- The names of the fields of a record. The message is one of them. -/
def Record.fieldNames (r : Record) : List String := "message" :: r.fields.map (·.1)

/-- Whether a record is as asked for. -/
def Condition.holds : Condition → Record → Bool
  | .nothing, _ => true
  | .field name, r => r.fieldNames.contains name
  | .span, _ => false

/-- Whether a condition counts more than another one. -/
def Condition.outranks : Condition → Condition → Bool
  | .field _, .nothing => true
  | .field a, .field b => b < a
  | _, _ => false

namespace Rule

/-- Whether a rule is about a record. -/
def appliesTo (r : Rule) (record : Record) : Bool :=
  record.source.startsWith r.start && r.condition.holds record

/-- Whether a rule counts more than another one about the same record. -/
def outranks (r s : Rule) : Bool :=
  s.start.length < r.start.length ||
    (s.start.length = r.start.length && r.condition.outranks s.condition)

end Rule

/-- What is wrong with a rule. -/
inductive RuleFault
  | malformed
  | unknownLevel
  /-- A part would begin or end inside a character. -/
  | insideCharacter
  deriving DecidableEq, Repr

/-- What a user is told about a rule that is left out. Nothing is told if reading cannot go
on. -/
def RuleFault.message? : RuleFault → Option String
  | .malformed => some "invalid filter directive"
  | .unknownLevel =>
    some "error parsing level filter: expected one of \"off\", \"error\", \"warn\", \"info\", \"debug\", \"trace\", or a number 0-5"
  | .insideCharacter => none

namespace Rule

/-- The level of a rule: a name, in capitals or not, or its place in the order of levels. -/
def level? (text : String) : Option Level :=
  match Text.natural? text with
  | some n => Level.all[n]?
  | none => Level.ofName? (text.map Char.toLower)

/-- Whether a rule can start with a character. -/
def canStart (c : Char) : Bool := Text.isAlphanumeric c || ['-', ':', '_', '['].contains c

/-- How many bytes some characters take. -/
def byteCount (cs : List Char) : Nat := cs.foldl (· + ·.utf8Size) 0

/-- The part of a text from a place up to another one, counted in bytes. -/
def part (text : String) (first last : Nat) : Except RuleFault String :=
  match (Text.splitAtByte? last text.toList).bind fun (cs, _) => Text.splitAtByte? first cs with
  | some (_, cs) => .ok (String.ofList cs)
  | none => .error .insideCharacter

/-- The level at the end of a text, from a place on. -/
def lastLevel (text : String) (first : Nat) : Except RuleFault Level := do
  let written ← part text first text.utf8ByteSize
  if written = "" then .ok (.upTo .trace)
  else match level? written with
    | some level => .ok level
    | none => .error .unknownLevel

/-- Reads what stands between brackets, whose inside begins at a place: the condition, the
place after the brackets, and what follows there. -/
def readCondition (text : String) (first : Nat) (cs : List Char) :
    Except RuleFault (Condition × Nat × List Char) := do
  let isName (c : Char) : Bool := c ≠ ']' && c ≠ '\x7b'
  let last := first + byteCount (cs.takeWhile isName)
  match cs.dropWhile isName with
  | [] => .error .malformed
  | ']' :: after =>
    let _ ← part text first last
    .ok (.span, last + 1, after)
  | _ :: inside =>
    let span ← part text first last
    let first := last + 1
    let last := first + byteCount (inside.takeWhile (· ≠ '\x7d'))
    match inside.dropWhile (· ≠ '\x7d') with
    | [] => .error .malformed
    | _ :: after =>
      let field ← part text first last
      if field = "" then .error .malformed
      else match after with
        | ']' :: after =>
          let condition := if span = "" && !field.contains '=' then .field field else .span
          .ok (condition, last + 2, after)
        | _ => .error .malformed

/-- **The rule of a text.** -/
def parse (text : String) : Except RuleFault Rule := do
  let cs := Text.trimmed text.toList
  if !cs.head?.any canStart then .error .malformed
  let isWord (c : Char) : Bool := c ≠ '=' && c ≠ '['
  let last := byteCount (cs.takeWhile isWord)
  match cs.dropWhile isWord with
  | [] =>
    match level? text with
    | some level => .ok { level := level }
    | none => .ok { start := text, level := .upTo .trace }
  | '=' :: _ =>
    .ok { start := ← part text 0 last, level := ← lastLevel text (last + 1) }
  | _ :: inside =>
    let start ← part text 0 last
    let (condition, next, after) ← readCondition text (last + 1) inside
    match after with
    | [] => .ok { start := start, condition := condition, level := .upTo .trace }
    | '=' :: _ =>
      .ok { start := start, condition := condition, level := ← lastLevel text (next + 1) }
    | _ => .error .malformed

end Rule

end Telemetry.Log
