import Telemetry.Config.Basic
import Telemetry.Config.Error

/-!
# Overrides from the command line and the environment

A few settings can be given as texts that win over the configuration file. They are applied
one after the other – log level, metrics server, reservoir capacity, harvest interval – and
the first that cannot be understood ends the matter: those before it stay applied
(`Settings.override`).
-/

namespace Telemetry.Config

/-- Settings given as texts. -/
structure Overrides where
  logLevel : Option String := none
  /-- The metrics server; an empty text turns metrics off. -/
  statsd : Option String := none
  maxSamplesStored : Option String := none
  reportPeriod : Option String := none
  deriving DecidableEq, Repr, Inhabited

/-- The error of a value given for a field. -/
def Error.ofField (name : String) (fault : Option ValueFault) : Error :=
  ⟨.invalidValue, .field name, fault⟩

namespace Settings

/-- Overrides the log level. -/
def overrideLevel (s : Settings) (text : String) : Except Error Settings :=
  match Log.Level.parse? text with
  | some level => .ok { s with logging.level := level }
  | none => .error (.ofField "log_level" (some .unknownLevel))

/-- Overrides the metrics server. -/
def overrideStatsd (s : Settings) (text : String) : Except Error Settings :=
  .ok { s with metrics.statsd := if text.isEmpty then none else some text }

/-- Overrides the reservoir capacity. -/
def overrideCapacity (s : Settings) (text : String) : Except Error Settings :=
  match Text.readNatural text with
  | .ok n => .ok { s with transactionEvents.maxSamplesStored := n }
  | .error fault => .error (.ofField "max_samples_stored" (some (.number fault)))

/-- Overrides the harvest interval, which cannot be zero. -/
def overridePeriod (s : Settings) (text : String) : Except Error Settings :=
  match Text.readNatural text with
  | .ok 0 => .error (.ofField "report_period" none)
  | .ok n => .ok { s with harvest.reportPeriod := n }
  | .error fault => .error (.ofField "report_period" (some (.number fault)))

/-- Applies one override after others, unless one of them has failed. -/
def thenOverride (apply : Settings → String → Except Error Settings) (text : Option String)
    (state : Settings × Option Error) : Settings × Option Error :=
  match state, text with
  | (s, none), some text =>
    match apply s text with
    | .ok s => (s, none)
    | .error e => (s, some e)
  | state, _ => state

/-- **Applies overrides**: the settings with those that were applied, and the error that
stopped the others, if there was one. -/
def override (s : Settings) (o : Overrides) : Settings × Option Error :=
  thenOverride overridePeriod o.reportPeriod <|
    thenOverride overrideCapacity o.maxSamplesStored <|
      thenOverride overrideStatsd o.statsd <|
        thenOverride overrideLevel o.logLevel (s, none)

end Settings

end Telemetry.Config
