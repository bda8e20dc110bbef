import Telemetry.Events.Service

/-!
# The interval between harvests

What is harvested periodically for an application is a `Harvestable`. Its interval is kept in
whole milliseconds, in 64 bits. It starts as the configured one, and can be set to any duration:
that is cut to milliseconds, and shorter ones count as one millisecond. The harvest limit, which is
set along with it, is that of the service.
-/

namespace Telemetry.Events

/-- A length of time in whole seconds and the nanoseconds beyond them. -/
structure Duration where
  seconds : Nat
  nanoseconds : Nat
  deriving DecidableEq, Repr

/-- The duration of a number of nanoseconds. -/
def Duration.ofNanoseconds (n : Nat) : Duration := ⟨n / 1000000000, n % 1000000000⟩

/-- The whole milliseconds of a duration. -/
def Duration.milliseconds (d : Duration) : Nat := d.seconds * 1000 + d.nanoseconds / 1000000

/-- What is kept of a number of milliseconds: its low 64 bits. -/
def storedMilliseconds (n : Nat) : Nat := n % UInt64.size

/-- The interval that a harvest configuration asks for, in milliseconds. -/
def configuredPeriod (h : Config.HarvestSettings) : Nat :=
  storedMilliseconds (Duration.milliseconds ⟨h.periodSeconds, 0⟩)

/-- The interval set to a duration, in milliseconds. -/
def requestedPeriod (d : Duration) : Nat := storedMilliseconds (max d.milliseconds 1)

/-- The transaction events of an application, as something to be harvested periodically. -/
structure Harvestable where
  app : String
  /-- The interval between harvests, in milliseconds. -/
  period : Nat
  deriving DecidableEq, Repr

namespace Harvestable

variable {E : Type}

/-- What is harvested for an application, at the interval that the service is configured for. -/
def create (s : Service E) (app : String) : Harvestable :=
  ⟨app, configuredPeriod s.settings.harvest⟩

/-- The interval between harvests. -/
def reportPeriod (h : Harvestable) : Duration := .ofNanoseconds (h.period * 1000000)

/-- **Configures** the interval, and the harvest limit, which is the default capacity of the
service. -/
def configure (h : Harvestable) (period : Duration) (capacity : Nat) (s : Service E) :
    Harvestable × Service E × List (Note E) :=
  ({ h with period := requestedPeriod period }, s.setCapacity capacity)

end Harvestable

end Telemetry.Events
