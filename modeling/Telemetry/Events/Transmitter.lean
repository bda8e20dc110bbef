import Telemetry.Double.Order
import Telemetry.Events.Transmit
import Telemetry.Random.Source

/-!
# Sending batches to an output

A transmitter writes each batch as a line to its output, and counts the batches and events it
has written. It also plays the part of a collector that is down now and then: with some
probability it sends nothing and reports a passing failure. The output itself may fail at
several points, and what was written until then stays written.
-/

namespace Telemetry.Events

/-- The failure of a collector that is down. -/
def outage : TransmitError := .transient "simulated collector outage"

/-- Where an output fails. -/
inductive OutputFault
  /-- Nothing can be written. -/
  | atWrite
  /-- The break of the line cannot be written. -/
  | atBreak
  /-- The line is written, but does not reach its destination for sure. -/
  | atFlush
  deriving DecidableEq, Repr

/-- The failure of an output. -/
def OutputFault.error : OutputFault → TransmitError
  | .atWrite => .unexpected ["disk full"]
  | .atBreak => .unexpected ["disk full"]
  | .atFlush => .unexpected ["flush failed"]

/-- What an output with a fault takes of a line. -/
def OutputFault.written (line : String) : OutputFault → String
  | .atWrite => ""
  | .atBreak => line
  | .atFlush => line ++ "\n"

/-- What has been written, and how many batches, and events in them, have been sent. -/
structure Output where
  text : String := ""
  batches : Nat := 0
  events : Nat := 0
  deriving DecidableEq, Repr

/-- The output with the line of another batch. -/
def Output.add (o : Output) (line : String) (events : Nat) : Output :=
  ⟨o.text ++ line ++ "\n", o.batches + 1, o.events + events⟩

/-- A transmitter and its output so far. -/
structure Transmitter (E : Type) where
  /-- The line that a batch is written as, without its break. -/
  line : Batch E → String
  /-- How likely it is that the collector is down. -/
  failRate : Float
  random : Random.Source
  fault : Option OutputFault := none
  output : Output := {}

namespace Transmitter

variable {E : Type}

/-- A transmitter that fails at a rate between zero and one. -/
def create (line : Batch E → String) (failRate : Float) (seed : UInt64)
    (fault : Option OutputFault) : Transmitter E :=
  { line := line, failRate := Double.clampToUnit failRate, random := .ofSeed seed, fault := fault }

/-- Sends a batch. -/
def send (t : Transmitter E) (batch : Batch E) : Outcome × Transmitter E :=
  let (fails, random) := t.random.chance t.failRate
  let t := { t with random := random }
  if fails then (some outage, t)
  else
    match t.fault with
    | some fault =>
      let text := t.output.text ++ fault.written (t.line batch)
      (some fault.error, { t with output := { t.output with text := text } })
    | none => (none, { t with output := t.output.add (t.line batch) batch.events.length })

end Transmitter

end Telemetry.Events
