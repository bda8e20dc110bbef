import Telemetry.Config.Basic
import Telemetry.Metrics.Client

/-!
# Before the program starts

A configuration is looked over before anything is started with it: one that could never send
what it queues is turned down, and one that contradicts itself in less grave ways draws a
warning. What is about to start is logged, and metrics are set up if there is a server for
them.
-/

namespace Telemetry.Launch

open Config (Settings)

/-- The part of the program that the records of this module come from. -/
def source : String := "harvest::setup"

/-- Why a configuration is turned down. -/
inductive Refusal
  /-- Synthetic batches may be queued, but no harvest may send one. -/
  | batchesNeverSent
  deriving DecidableEq, Repr

/-- The text of a refusal. -/
def Refusal.message : Refusal → String
  | .batchesNeverSent =>
    "\x60harvest.synthetics.max_batches_per_harvest\x60 must be greater than 0 if synthetic batches are queued"

/-- The warning about an application that aims to sample more events than it can keep. -/
def targetWarning? (s : Settings) (app : String) : Option Log.Record :=
  let events := s.forApp app
  if events.maxSamplesStored < events.targetSamplesStored then
    some ⟨.warn, source,
      s!"target_samples_stored ({events.targetSamplesStored}) exceeds max_samples_stored ({events.maxSamplesStored})",
      [("app", .text app)]⟩
  else none

/-- **Looks a configuration over**: the refusal, or the warnings about the applications that
have overrides. -/
def check (s : Settings) : Except Refusal (List Log.Record) :=
  let synthetics := s.harvest.synthetics
  if 0 < synthetics.maxPendingBatches ∧ synthetics.maxBatchesPerHarvest = 0 then
    .error .batchesNeverSent
  else .ok (s.apps.keys.filterMap (targetWarning? s))

/-- What is logged about the settings in force, and the folder they come from. -/
def summary (s : Settings) (folder : String) : List Log.Record :=
  let line (text : String) : Log.Record := ⟨.info, source, text, []⟩
  [ line (if folder.isEmpty then "launching harvest without config folder"
      else "launching harvest from config folder " ++ folder),
    line s!"  transaction events enabled: {s.transactionEvents.enabled}",
    line s!"  max samples stored: {s.transactionEvents.maxSamplesStored}",
    line s!"  report period: {s.harvest.periodSeconds}s",
    line s!"  log level: {s.logging.level.name}" ]

/-- Sets up metrics, if there is a server for them. -/
def connectMetrics (s : Settings) (r : Metrics.Reporting) :
    Except Metrics.AddressError Metrics.Reporting :=
  match s.metrics.statsd with
  | none => .ok r
  | some host => r.connect s.metrics.stem host s.metrics.defaultTags s.metrics.sampleRate

end Telemetry.Launch
