import Telemetry.Config.Basic
import Telemetry.Config.Error
import Telemetry.Config.Tree

/-!
# Reading a configuration

Every section and every field may be missing, and then has its default. Fields that the
program does not know are skipped. Anything else that does not fit makes the whole
configuration unreadable.
-/

namespace Telemetry.Config

open TreeReader (field)

variable {N : Type}

/-- The name of a policy. -/
def UnexpectedErrorPolicy.name : UnexpectedErrorPolicy → String
  | .discard => "discard"
  | .retry => "retry"

/-- The policy of a name. -/
def UnexpectedErrorPolicy.ofName? (name : String) : Option UnexpectedErrorPolicy :=
  [UnexpectedErrorPolicy.discard, .retry].find? fun p => p.name == name

/-- The name of a log format. -/
def LogFormat.name : LogFormat → String
  | .auto => "auto"
  | .pretty => "pretty"
  | .simplified => "simplified"
  | .json => "json"

/-- The log format of a name. -/
def LogFormat.ofName? (name : String) : Option LogFormat :=
  [LogFormat.auto, .pretty, .simplified, .json].find? fun f => f.name == name

/-- The settings for transaction events of a tree. -/
def EventSettings.read? (t : TreeReader N) (n : N) : Option EventSettings := do
  let parts ← t.record? ["enabled", "max_samples_stored", "target_samples_stored"] n
  let default : EventSettings := {}
  return {
    enabled := ← field parts "enabled" t.bool? default.enabled
    maxSamplesStored := ← field parts "max_samples_stored" t.nat? default.maxSamplesStored
    targetSamplesStored :=
      ← field parts "target_samples_stored" t.nat? default.targetSamplesStored }

/-- The override of a tree. -/
def AppOverride.read? (t : TreeReader N) (n : N) : Option AppOverride := do
  let parts ← t.record? ["enabled", "max_samples_stored", "target_samples_stored"] n
  return {
    enabled := ← field parts "enabled" (t.optional t.bool?) none
    maxSamplesStored := ← field parts "max_samples_stored" (t.optional t.nat?) none
    targetSamplesStored := ← field parts "target_samples_stored" (t.optional t.nat?) none }

/-- The limits for synthetic events of a tree. -/
def SyntheticsSettings.read? (t : TreeReader N) (n : N) : Option SyntheticsSettings := do
  let parts ← t.record?
    ["max_events_per_app", "max_pending_batches", "max_batches_per_harvest"] n
  let default : SyntheticsSettings := {}
  return {
    maxEventsPerApp := ← field parts "max_events_per_app" t.nat? default.maxEventsPerApp
    maxPendingBatches := ← field parts "max_pending_batches" t.nat? default.maxPendingBatches
    maxBatchesPerHarvest :=
      ← field parts "max_batches_per_harvest" t.nat? default.maxBatchesPerHarvest }

/-- The harvest cycle of a tree. -/
def HarvestSettings.read? (t : TreeReader N) (n : N) : Option HarvestSettings := do
  let parts ← t.record? ["report_period", "unexpected_errors", "synthetics"] n
  let default : HarvestSettings := {}
  return {
    reportPeriod := ← field parts "report_period" t.nat? default.reportPeriod
    unexpectedErrors :=
      ← field parts "unexpected_errors" (t.chosen UnexpectedErrorPolicy.ofName?)
        default.unexpectedErrors
    synthetics := ← field parts "synthetics" (SyntheticsSettings.read? t) default.synthetics }

/-- The metrics settings of a tree. -/
def MetricsSettings.read? (t : TreeReader N) (n : N) : Option MetricsSettings := do
  let parts ← t.record? ["statsd", "prefix", "default_tags", "sample_rate"] n
  let default : MetricsSettings := {}
  return {
    statsd := ← field parts "statsd" (t.optional t.text?) default.statsd
    stem := ← field parts "prefix" t.text? default.stem
    defaultTags :=
      ← field parts "default_tags" (fun n => (t.entries t.text? n).map .ofList)
        default.defaultTags
    sampleRate := ← field parts "sample_rate" t.float? default.sampleRate }

/-- The log settings of a tree. -/
def LogSettings.read? (t : TreeReader N) (n : N) : Option LogSettings := do
  let parts ← t.record? ["level", "format", "enable_backtraces"] n
  let default : LogSettings := {}
  return {
    level := ← field parts "level" (t.chosen Log.Level.ofName?) default.level
    format := ← field parts "format" (t.chosen LogFormat.ofName?) default.format
    enableBacktraces := ← field parts "enable_backtraces" t.bool? default.enableBacktraces }

/-- **The settings of a tree.** -/
def Settings.read? (t : TreeReader N) (n : N) : Option Settings := do
  let parts ← t.record? ["logging", "metrics", "transaction_events", "harvest", "apps"] n
  let default : Settings := {}
  return {
    logging := ← field parts "logging" (LogSettings.read? t) default.logging
    metrics := ← field parts "metrics" (MetricsSettings.read? t) default.metrics
    transactionEvents :=
      ← field parts "transaction_events" (EventSettings.read? t) default.transactionEvents
    harvest := ← field parts "harvest" (HarvestSettings.read? t) default.harvest
    apps :=
      ← field parts "apps" (fun n => (t.entries (AppOverride.read? t) n).map .ofList)
        default.apps }

/-- The settings of a JSON value. -/
def Settings.ofJson (j : Json) : Except Error Settings :=
  match Settings.read? .json j with
  | some s => .ok s
  | none => .error { kind := .badJson }

/-- The settings of a tree that has nothing but the section for transaction events, which
must be there. -/
def EventSettings.readSection? (t : TreeReader N) (n : N) : Option EventSettings := do
  let parts ← t.record? ["transaction_events"] n
  (parts.lookup "transaction_events").bind (EventSettings.read? t)

end Telemetry.Config
