import Telemetry.Events.Store
import Telemetry.Events.Transmit
import Telemetry.Metrics.Sample

/-!
# What a run leaves behind

Everything a run of the service shows to the outside is a note in its journal: the
attempts to send a batch, the metric samples, and the log records.
-/

namespace Telemetry.Events

/-- One entry of the journal. -/
inductive Note (E : Type)
  /-- A batch was handed to the transport. -/
  | attempt (kind : Kind) (batch : Batch E) (outcome : Outcome)
  /-- The outcome of an attempt came back. -/
  | settled (kind : Kind) (batch : Batch E) (outcome : Outcome)
  /-- Something was measured. -/
  | sample (sample : Metrics.Sample)
  /-- Something was logged. -/
  | record (record : Log.Record)

namespace Note

variable {E : Type}

/-- Adds to a counter. -/
def counted (name : String) (n : Nat) (tags : List (String × String)) : Note E :=
  .sample ⟨name, .count n, tags⟩

/-- Sets a gauge. -/
def gauged (name : String) (n : Nat) (tags : List (String × String)) : Note E :=
  .sample ⟨name, .level n, tags⟩

/-- Whether a note stays visible when the work is done in the background: a batch
reaches the receiver from anywhere, but samples and records stay where they arise. -/
def isPublic : Note E → Bool
  | .attempt .. => true
  | .settled .. => true
  | _ => false

end Note

end Telemetry.Events
