import Telemetry.Log.Level
import Telemetry.Text.Natural

/-!
# What is wrong with a configuration

A configuration may fail to load, to be saved, or to take a value. The text of the error
says what failed and, where that is known, for which file or field; the fault in a value is
its cause.
-/

namespace Telemetry.Config

/-- What failed. -/
inductive ErrorKind
  | cannotOpen
  | cannotWrite
  | badYaml
  | badJson
  | invalidValue
  deriving DecidableEq, Repr

/-- The text of what failed. -/
def ErrorKind.text : ErrorKind → String
  | .cannotOpen => "could not open config file"
  | .cannotWrite => "could not write config file"
  | .badYaml => "could not parse yaml config file"
  | .badJson => "could not parse json config file"
  | .invalidValue => "invalid config value"

/-- Where an error arose. -/
inductive Origin
  | unknown
  | file (path : String)
  | field (name : String)
  deriving DecidableEq, Repr

/-- What a text says about the origin. -/
def Origin.text : Origin → String
  | .unknown => ""
  | .file path => " (file " ++ path ++ ")"
  | .field name => " (field " ++ name ++ ")"

/-- What is wrong with a value given as text. -/
inductive ValueFault
  | number (fault : Text.NumberFault)
  | unknownLevel
  deriving DecidableEq, Repr

/-- What is wrong with a value, as text. -/
def ValueFault.message : ValueFault → String
  | .number fault => fault.message
  | .unknownLevel => Log.Level.parseFailure

/-- An error of the configuration. -/
structure Error where
  kind : ErrorKind
  origin : Origin := .unknown
  /-- What is wrong with the value, unless its being zero is. -/
  fault : Option ValueFault := none
  deriving DecidableEq, Repr

/-- The text of the error, without its cause. -/
def Error.message (e : Error) : String := e.kind.text ++ e.origin.text

end Telemetry.Config
