/-!
# Severities and verbosity levels

A log record has a `Severity`. What is shown of the records is set by a `Level`:
nothing at all, or everything up to a severity.
-/

namespace Telemetry.Log

/-- How grave a log record is, gravest first. -/
inductive Severity
  | error
  | warn
  | info
  | debug
  | trace
  deriving DecidableEq, Repr

namespace Severity

/-- The severities from gravest to least grave. -/
def all : List Severity := [.error, .warn, .info, .debug, .trace]

/-- The lower-case name. -/
def name : Severity → String
  | .error => "error"
  | .warn => "warn"
  | .info => "info"
  | .debug => "debug"
  | .trace => "trace"

/-- The name in log records. -/
def label : Severity → String
  | .error => "ERROR"
  | .warn => "WARN"
  | .info => "INFO"
  | .debug => "DEBUG"
  | .trace => "TRACE"

/-- The place from gravest to least grave. -/
def place : Severity → Nat
  | .error => 0
  | .warn => 1
  | .info => 2
  | .debug => 3
  | .trace => 4

end Severity

/-- How much of the log is shown. -/
inductive Level
  | off
  | upTo (severity : Severity)
  deriving DecidableEq, Repr

namespace Level

/-- All levels, from silent to everything. -/
def all : List Level := .off :: Severity.all.map .upTo

/-- The name in configuration files and messages. -/
def name : Level → String
  | .off => "off"
  | .upTo s => s.name

/-- The level of an exact name. -/
def ofName? (name : String) : Option Level := all.find? fun l => l.name == name

/-- The level that a user asks for: capitals do not matter, and `warning` is another
word for `warn`. -/
def parse? (text : String) : Option Level :=
  let word := text.map Char.toLower
  ofName? (if word = "warning" then "warn" else word)

/-- What a user is told whose level has no such name. -/
def parseFailure : String :=
  "invalid log level, expected one of off, error, warn, info, debug, trace"

/-- Whether records of a severity are shown. -/
def shows (level : Level) (s : Severity) : Bool :=
  match level with
  | .off => false
  | .upTo bound => s.place ≤ bound.place

end Level

end Telemetry.Log
