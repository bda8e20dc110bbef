import Telemetry.Config.Basic
import Telemetry.Double.Text
import Telemetry.Text.Description
import Telemetry.Text.Quoted

/-!
# Configuration, described

The shape of every part of a configuration, for messages and for display.
-/

namespace Telemetry.Config

open Text (Description quoted)

/-- A string, in quotes. -/
def describeText (s : String) : Description := .atom (quoted s)

/-- A double. -/
def describeFloat (x : Float) : Description := .atom (Double.text .described x)

/-- The description of the settings for transaction events. -/
def EventSettings.description (s : EventSettings) : Description :=
  .record "TransactionEventsConfig" [
    ("enabled", .ofBool s.enabled),
    ("max_samples_stored", .ofNat s.maxSamplesStored),
    ("target_samples_stored", .ofNat s.targetSamplesStored)]

/-- The description of an override. -/
def AppOverride.description (o : AppOverride) : Description :=
  .record "AppOverride" [
    ("enabled", .ofOption .ofBool o.enabled),
    ("max_samples_stored", .ofOption .ofNat o.maxSamplesStored),
    ("target_samples_stored", .ofOption .ofNat o.targetSamplesStored)]

/-- The description of a policy. -/
def UnexpectedErrorPolicy.description : UnexpectedErrorPolicy → Description
  | .discard => .atom "Discard"
  | .retry => .atom "Retry"

/-- The description of the limits for synthetic events. -/
def SyntheticsSettings.description (s : SyntheticsSettings) : Description :=
  .record "SyntheticsConfig" [
    ("max_events_per_app", .ofNat s.maxEventsPerApp),
    ("max_pending_batches", .ofNat s.maxPendingBatches),
    ("max_batches_per_harvest", .ofNat s.maxBatchesPerHarvest)]

/-- The description of the harvest cycle. -/
def HarvestSettings.description (s : HarvestSettings) : Description :=
  .record "HarvestConfig" [
    ("report_period", .ofNat s.reportPeriod),
    ("unexpected_errors", s.unexpectedErrors.description),
    ("synthetics", s.synthetics.description)]

/-- The description of the metrics settings. -/
def MetricsSettings.description (s : MetricsSettings) : Description :=
  .record "Metrics" [
    ("statsd", .ofOption describeText s.statsd),
    ("prefix", describeText s.stem),
    ("default_tags", .map (s.defaultTags.entries.map fun (k, v) => (quoted k, describeText v))),
    ("sample_rate", describeFloat s.sampleRate)]

/-- The name of a level in descriptions. -/
def levelDescription : Log.Level → Description
  | .off => .atom "Off"
  | .upTo .error => .atom "Error"
  | .upTo .warn => .atom "Warn"
  | .upTo .info => .atom "Info"
  | .upTo .debug => .atom "Debug"
  | .upTo .trace => .atom "Trace"

/-- The description of a log format. -/
def LogFormat.description : LogFormat → Description
  | .auto => .atom "Auto"
  | .pretty => .atom "Pretty"
  | .simplified => .atom "Simplified"
  | .json => .atom "Json"

/-- The description of the log settings. -/
def LogSettings.description (s : LogSettings) : Description :=
  .record "LogConfig" [
    ("level", levelDescription s.level),
    ("format", s.format.description),
    ("enable_backtraces", .ofBool s.enableBacktraces)]

/-- The settings of the program, with the folder they were loaded from. -/
def Settings.description (s : Settings) (folder : String) : Description :=
  .record "Config" [
    ("path", describeText folder),
    ("values", .record "ConfigValues" [
      ("logging", s.logging.description),
      ("metrics", s.metrics.description),
      ("transaction_events", s.transactionEvents.description),
      ("harvest", s.harvest.description),
      ("apps", .map (s.apps.entries.map fun (k, o) => (quoted k, o.description)))])]

end Telemetry.Config
