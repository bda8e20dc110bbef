import Telemetry.Json.Printer
import Telemetry.Log.Record
import Telemetry.Text.Quoted

/-!
# Log records as lines

A record is written with the time at which it is written: as text, for readers or for
terminals with colours, or as a JSON object. In text, strings among the fields are quoted, so
that it can be seen where they end; and what a terminal would act on is written by its number,
so that no message can take control of it.
-/

namespace Telemetry.Log

/-- How log records are laid out. -/
inductive Layout
  | plain
  | coloured
  | json
  deriving DecidableEq, Repr

/-- The controls of ASCII that a terminal may act on, besides blanks and breaks. -/
def terminalControls : List Nat := [0x07, 0x08, 0x0C, 0x1B, 0x7F]

/-- A character in text that a terminal may show. -/
def inertChar (c : Char) : String :=
  let n := c.toNat
  if terminalControls.contains n then
    "\\x" ++ String.ofList (Nat.toDigits 16 (n / 16) ++ Nat.toDigits 16 (n % 16))
  else if 0x80 ≤ n && n ≤ 0x9F then Text.codePointEscape c
  else c.toString

/-- A text that a terminal may show. -/
def inert (s : String) : String := String.join (s.toList.map inertChar)

/-- A field in a line of text. -/
def FieldValue.inText : FieldValue → String
  | .text s => Text.quoted s
  | .count n => toString n
  | .shown s => inert s

/-- A field in a JSON line. -/
def FieldValue.toJson : FieldValue → Json
  | .count n => .ofNat n
  | v => .str v.plain

/-- The label of a severity, as wide as the widest one. -/
def Severity.paddedLabel (s : Severity) : String :=
  String.ofList (List.replicate (5 - s.label.length) ' ') ++ s.label

/-- The number of a terminal's colour for a severity. -/
def Severity.colour : Severity → Nat
  | .error => 31
  | .warn => 33
  | .info => 32
  | .debug => 34
  | .trace => 35

/-- A text that a terminal shows in a style. -/
def styled (style : Nat) (s : String) : String :=
  "\x1b[" ++ toString style ++ "m" ++ s ++ "\x1b[0m"

/-- The style of what is less important. -/
def dim : Nat := 2

/-- The style of field names. -/
def italic : Nat := 3

namespace Record

/-- A record as text, without colours. -/
def plainLine (time : String) (r : Record) : String :=
  time ++ " " ++ r.severity.paddedLabel ++ " " ++ r.source ++ ": " ++ inert r.message ++
    String.join (r.fields.map fun (name, v) => " " ++ name ++ "=" ++ v.inText)

/-- A record as text for a terminal. -/
def colouredLine (time : String) (r : Record) : String :=
  styled dim time ++ " " ++ styled r.severity.colour r.severity.paddedLabel ++ " " ++
    styled dim r.source ++ styled dim ":" ++ " " ++ inert r.message ++
    String.join (r.fields.map fun (name, v) =>
      " " ++ styled italic name ++ styled dim "=" ++ v.inText)

/-- A record as an object, whose fields stand among those that every record has. -/
def toJson (time : String) (r : Record) : Json :=
  .obj ([("timestamp", .str time), ("level", .str r.severity.label), ("message", .str r.message)] ++
    r.fields.map (fun (name, v) => (name, v.toJson)) ++ [("target", .str r.source)])

/-- **A record as a line.** -/
def line (r : Record) (layout : Layout) (time : String) : String :=
  match layout with
  | .plain => r.plainLine time
  | .coloured => r.colouredLine time
  | .json => (r.toJson time).render

end Record

end Telemetry.Log
