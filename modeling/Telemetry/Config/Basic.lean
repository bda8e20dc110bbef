import Telemetry.Dict
import Telemetry.Log.Level

/-!
# Configuration

The settings of the whole program, section by section, with their defaults.
Settings of an application can be overridden one by one; what an override leaves
open comes from the global section (`AppOverride.applyTo`).
-/

namespace Telemetry.Config

/-- Settings for transaction events, global or resolved for one application. -/
structure EventSettings where
  /-- Whether transaction events are collected at all. -/
  enabled : Bool := true
  /-- How many events are retained between harvests. -/
  maxSamplesStored : Nat := 2000
  /-- How many events per harvest the sampler aims to mark as sampled. -/
  targetSamplesStored : Nat := 10
  deriving DecidableEq, Repr, Inhabited

/-- The settings of one application that differ from the global ones. -/
structure AppOverride where
  enabled : Option Bool := none
  maxSamplesStored : Option Nat := none
  targetSamplesStored : Option Nat := none
  deriving DecidableEq, Repr, Inhabited

/-- The override on top of given settings. -/
def AppOverride.applyTo (o : AppOverride) (defaults : EventSettings) : EventSettings where
  enabled := o.enabled.getD defaults.enabled
  maxSamplesStored := o.maxSamplesStored.getD defaults.maxSamplesStored
  targetSamplesStored := o.targetSamplesStored.getD defaults.targetSamplesStored

/-- What happens to a batch whose transmission failed for an unknown reason. -/
inductive UnexpectedErrorPolicy
  /-- Drop it, so that a failure that keeps recurring cannot pile up data. -/
  | discard
  /-- Treat the failure like a passing one. -/
  | retry
  deriving DecidableEq, Repr, Inhabited

/-- Limits for events from synthetic monitoring. -/
structure SyntheticsSettings where
  /-- Capacity of the synthetic reservoir of an application. -/
  maxEventsPerApp : Nat := 200
  /-- How many harvested batches may wait, over all applications. -/
  maxPendingBatches : Nat := 25
  /-- How many waiting batches one harvest may send. -/
  maxBatchesPerHarvest : Nat := 5
  deriving DecidableEq, Repr, Inhabited

/-- The harvest cycle. -/
structure HarvestSettings where
  /-- Seconds between two harvests. -/
  reportPeriod : Nat := 60
  unexpectedErrors : UnexpectedErrorPolicy := .discard
  synthetics : SyntheticsSettings := {}
  deriving DecidableEq, Repr, Inhabited

/-- Where metrics go and how they are named. -/
structure MetricsSettings where
  /-- Host and port of the server; no metrics are reported without one. -/
  statsd : Option String := none
  /-- What all metric names start with. -/
  stem : String := "harvest"
  /-- Tags of every metric. -/
  defaultTags : Dict String := .empty
  /-- The share of metrics that are reported. -/
  sampleRate : Float := 1.0
  deriving Inhabited

/-- The layout of the log. -/
inductive LogFormat
  /-- For a terminal `pretty`, else `simplified`. -/
  | auto
  | pretty
  | simplified
  | json
  deriving DecidableEq, Repr, Inhabited

/-- The settings of the log. -/
structure LogSettings where
  level : Log.Level := .upTo .info
  format : LogFormat := .auto
  enableBacktraces : Bool := false
  deriving DecidableEq, Repr, Inhabited

/-- The settings of the whole program. -/
structure Settings where
  logging : LogSettings := {}
  metrics : MetricsSettings := {}
  transactionEvents : EventSettings := {}
  harvest : HarvestSettings := {}
  apps : Dict AppOverride := .empty
  deriving Inhabited

/-- The event settings of an application: the global ones under its override. -/
def Settings.forApp (s : Settings) (app : String) : EventSettings :=
  match s.apps.get? app with
  | some o => o.applyTo s.transactionEvents
  | none => s.transactionEvents

/-- Sets or replaces the override of an application. -/
def Settings.setApp (s : Settings) (app : String) (o : AppOverride) : Settings :=
  { s with apps := s.apps.insert app o }

/-- The seconds between two harvests: as configured, and at least one. -/
def HarvestSettings.periodSeconds (h : HarvestSettings) : Nat := max h.reportPeriod 1

end Telemetry.Config
