import Telemetry.Events.Transmitter
import Telemetry.Json.Printer
import Telemetry.Sampling.Reservoir

/-!
# Simulated events and their lines

A simulation records made-up transactions. A batch of them leaves the program as a line of
JSON, through a transmitter.
-/

namespace Telemetry.Simulation

open Events (Batch)

/-- A simulated transaction. -/
structure Event where
  name : String
  /-- How long it took, in milliseconds. -/
  duration : Nat
  priority : Float
  isSynthetic : Bool

instance : Sampling.HasPriority Event := ⟨Event.priority⟩

/-- An event in a line. -/
def Event.toJson (e : Event) : Json :=
  .obj [
    ("name", .str e.name),
    ("duration_ms", .ofNat e.duration),
    ("priority", .real e.priority),
    ("synthetic", .bool e.isSynthetic)]

/-- A batch as a value. -/
def batchJson (b : Batch Event) : Json :=
  .obj [
    ("app_name", .str b.app),
    ("reservoir_size", .ofNat b.capacity),
    ("events_seen", .ofNat b.tries),
    ("events", .arr (b.events.map Event.toJson))]

/-- The line of a batch, without its break. -/
def batchLine (b : Batch Event) : String := (batchJson b).render

/-- A transmitter that writes batches as lines of JSON. -/
def transmitter (failRate : Float) (seed : UInt64) (fault : Option Events.OutputFault) :
    Events.Transmitter Event :=
  .create batchLine failRate seed fault

end Telemetry.Simulation
