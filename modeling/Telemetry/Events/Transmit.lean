import Telemetry.Log.Record

/-!
# Transmission

A harvest hands a batch of events to the transport and reacts to the outcome alone.
A failure says by its kind what becomes of the batch: a passing one is worth another
attempt, a lasting one is not, and for any other the configuration decides.
-/

namespace Telemetry.Events

/-- Why a batch was not delivered. -/
inductive TransmitError
  /-- The receiver is unavailable or limits the rate. -/
  | transient (message : String)
  /-- The receiver turned the batch down and will do so again. -/
  | permanent (message : String)
  /-- Anything else, with its causes, outermost first. -/
  | unexpected (causes : List String)
  deriving DecidableEq, Repr

namespace TransmitError

/-- The text of the error, without its causes. -/
def message : TransmitError → String
  | .transient m => "transient transmit failure: " ++ m
  | .permanent m => "permanent transmit failure: " ++ m
  | .unexpected _ => "unexpected transmit failure"

/-- The error as a failure with its causes. -/
def failure (e : TransmitError) : Log.Failure :=
  match e with
  | .unexpected causes => ⟨e.message, causes⟩
  | e => ⟨e.message, []⟩

/-- Whether the data should be kept for another attempt. -/
def isTransient : TransmitError → Bool
  | .transient _ => true
  | _ => false

/-- Whether the data was turned down for good. -/
def isPermanent : TransmitError → Bool
  | .permanent _ => true
  | _ => false

end TransmitError

/-- The outcome of handing over a batch: an error, or none. -/
abbrev Outcome := Option TransmitError

/-- A harvested batch as the transport sees it: the application and capacity of its
reservoir, how many events that reservoir decided on, and those it retained, by
descending priority. -/
structure Batch (E : Type) where
  app : String
  capacity : Nat
  tries : Nat
  events : List E
  deriving Repr

end Telemetry.Events
