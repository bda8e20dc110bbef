import Telemetry.Log.Level

/-!
# Log records

A record has a severity, the part of the program it comes from, a message, and
named fields. How a field is written depends on where the record goes, so a field
keeps what kind of value it holds.
-/

namespace Telemetry.Log

/-- The value of a field. -/
inductive FieldValue
  /-- A string, quoted in text output. -/
  | text (s : String)
  /-- A count. -/
  | count (n : Nat)
  /-- Something shown by a text of its own, such as an error. -/
  | shown (s : String)
  deriving DecidableEq, Repr

/-- A log record. -/
structure Record where
  severity : Severity
  source : String
  message : String
  fields : List (String × FieldValue) := []
  deriving DecidableEq, Repr

/-- The plain text of a field: strings as they are, counts in decimal. -/
def FieldValue.plain : FieldValue → String
  | .text s => s
  | .count n => toString n
  | .shown s => s

/-- A failure and what caused it, outermost first. -/
structure Failure where
  message : String
  causes : List String := []
  deriving DecidableEq, Repr

/-- A failure with each of its causes on a line of its own. -/
def Failure.text (f : Failure) : String :=
  f.message ++ String.join (f.causes.map ("\n  caused by: " ++ ·))

/-- Whether the environment asks for backtraces, by the value of its variable for them. -/
def asksForBacktraces (value : String) : Bool := value = "1" || value = "full"

end Telemetry.Log
