import Telemetry.Config.Decode

/-!
# Writing a configuration

The tree that a configuration is saved as. It has every field, except that what is not set
is left out: the server without metrics, the open fields of an override, and the section
of overrides if there are none.
-/

namespace Telemetry.Config

/-- A field that is left out if it is not set. -/
def optionalField {α : Type} (name : String) (encode : α → Json) : Option α → List (String × Json)
  | some x => [(name, encode x)]
  | none => []

/-- The tree of the settings for transaction events. -/
def EventSettings.toJson (s : EventSettings) : Json :=
  .obj [
    ("enabled", .bool s.enabled),
    ("max_samples_stored", .ofNat s.maxSamplesStored),
    ("target_samples_stored", .ofNat s.targetSamplesStored)]

/-- The tree of an override: the fields that it sets. -/
def AppOverride.toJson (o : AppOverride) : Json :=
  .obj (optionalField "enabled" .bool o.enabled ++
    optionalField "max_samples_stored" .ofNat o.maxSamplesStored ++
    optionalField "target_samples_stored" .ofNat o.targetSamplesStored)

/-- The tree of the limits for synthetic events. -/
def SyntheticsSettings.toJson (s : SyntheticsSettings) : Json :=
  .obj [
    ("max_events_per_app", .ofNat s.maxEventsPerApp),
    ("max_pending_batches", .ofNat s.maxPendingBatches),
    ("max_batches_per_harvest", .ofNat s.maxBatchesPerHarvest)]

/-- The tree of the harvest cycle. -/
def HarvestSettings.toJson (s : HarvestSettings) : Json :=
  .obj [
    ("report_period", .ofNat s.reportPeriod),
    ("unexpected_errors", .str s.unexpectedErrors.name),
    ("synthetics", s.synthetics.toJson)]

/-- The tree of the metrics settings, whose sample rate is finite. JSON has no other numbers: a text
in it has `null` where the tree has one. YAML, which a configuration is saved in, has a number for
every rate. -/
def MetricsSettings.toJson (s : MetricsSettings) : Json :=
  .obj (optionalField "statsd" .str s.statsd ++ [
    ("prefix", .str s.stem),
    ("default_tags", .obj (s.defaultTags.entries.map fun (k, v) => (k, .str v))),
    ("sample_rate", .real s.sampleRate)])

/-- The tree of the log settings. -/
def LogSettings.toJson (s : LogSettings) : Json :=
  .obj [
    ("level", .str s.level.name),
    ("format", .str s.format.name),
    ("enable_backtraces", .bool s.enableBacktraces)]

/-- The section of overrides, if there are any. -/
def appsField (apps : Dict AppOverride) : List (String × Json) :=
  if apps.isEmpty then []
  else [("apps", .obj (apps.entries.map fun (k, o) => (k, o.toJson)))]

/-- **The tree of a configuration.** -/
def Settings.toJson (s : Settings) : Json :=
  .obj ([
    ("logging", s.logging.toJson),
    ("metrics", s.metrics.toJson),
    ("transaction_events", s.transactionEvents.toJson),
    ("harvest", s.harvest.toJson)] ++ appsField s.apps)

/-- The tree that has nothing but the section for transaction events. -/
def EventSettings.toSection (s : EventSettings) : Json :=
  .obj [("transaction_events", s.toJson)]

end Telemetry.Config
