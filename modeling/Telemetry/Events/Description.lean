import Telemetry.Events.Period

/-!
# The parts of the service, described
-/

namespace Telemetry.Events

open Text (Description quoted)
open Sampling (Reservoir)

variable {α β E : Type}

/-- A reservoir: its labels, its limits and its counts. -/
def describeReservoir (r : Reservoir E) : Description :=
  .record "Reservoir" [
    ("app_name", .atom (quoted r.app)),
    ("service_name", .atom (quoted r.service)),
    ("max_size", .ofNat r.capacity),
    ("decided_last", .ofNat r.decidedLast),
    ("target", .ofNat r.target),
    ("len", .ofNat r.size),
    ("number_of_tries", .ofNat r.tries),
    ("sealed", .ofBool r.isSealed)]

/-- The description of a backlog: how full it is. -/
def Backlog.description (b : Backlog β) : Description :=
  .record "SyntheticBacklog" [("len", .ofNat b.size), ("capacity", .ofNat b.capacity)]

/-- The description of a store: how many reservoirs are live. -/
def Store.description (s : Store α) : Description :=
  .record "ReservoirStore" [
    ("ordinary", .ofNat s.ordinary.size), ("synthetic", .ofNat s.synthetic.size)]

/-- The description of a name cache: how full it is. -/
def NameCache.description (c : NameCache) : Description :=
  .record "NameCache" [("capacity", .ofNat c.capacity), ("len", .ofNat c.size)]

/-- The description of a service. -/
def Service.description (s : Service E) : Description :=
  .record "TransactionEventsService" [
    ("enabled", .ofBool s.enabled),
    ("max_samples_stored", .ofNat s.maxSamplesStored),
    ("store", s.live.description),
    ("backlog", s.backlog.description)]

/-- The description of what is harvested for an application: whose it is, and how often. -/
def Harvestable.description (h : Harvestable) : Description :=
  .record "EventHarvestable" [
    ("app_name", .atom (quoted h.app)), ("report_period_ms", .ofNat h.period)]

/-- The scheduler: one thread for each application. -/
def describeScheduler (threads : Nat) : Description :=
  .record "HarvestScheduler" [("threads", .ofNat threads)]

end Telemetry.Events
