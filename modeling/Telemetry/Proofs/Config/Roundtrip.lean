import Telemetry.Config.Encode
import Telemetry.Proofs.Dict
import Telemetry.Proofs.Json.Prune

/-!
# A saved configuration loads as it was

The tree of a configuration is read back as that configuration, and if fields are deleted from the
tree, only these change (`Settings.ofJson_toJson`): what is deleted has its default, an entry of a
map that is deleted is gone, and an override is open again.

What a configuration is without some places of its tree is said field by field
(`Settings.without`). What its decoder owes to its encoder is `Restores`, of the whole as of every
part. It is shown of scalars, and goes from the fields to the record (`Restores.field_eq`,
`Restores.field_optional_eq`) and from the values to the map (`Restores.dict`):

| tree | what is left of it |
|---|---|
| scalar | all of it |
| field of a record | its value, or the default |
| entry of a map | its value, or nothing |

So for each record there is only to be said which encoder goes with the decoder of a field, and
that the field is found under its name.
-/

namespace Telemetry.Config

open Json (pruneFields)
open TreeReader (field)

/-! ### What a decoder owes to an encoder -/

/-- The value of a field, or the default if the field is gone. -/
def unlessGone {α : Type} (gone : Places) (name : String) (value default : α) : α :=
  if gone [name] then default else value

/-- **The decoder restores** what is left of an encoded value. -/
def Restores {α : Type} (read : Json → Option α) (encode : α → Json) (left : Places → α → α) :
    Prop :=
  ∀ (gone : Places) (x : α), read ((encode x).prune gone) = some (left gone x)

section Restoring

variable {α : Type} {read : Json → Option α} {encode : α → Json} {left : Places → α → α}
  {gone : Places} {fields : List (String × Json)}

/-- **A record** is read from the fields that are left. -/
theorem record_prune {β : Type} (names : List String) (f : List (String × Json) → Option β) :
    (TreeReader.json.record? names ((Json.obj fields).prune gone) >>= f) =
      f (pruneFields gone fields) := rfl

/-- **A field** that is always written. -/
theorem Restores.field_eq (h : Restores read encode left) (name : String) (x : α)
    (hlookup : fields.lookup name = some (encode x)) (default : α) :
    field (pruneFields gone fields) name read default =
      some (unlessGone gone name (left (gone.inside name) x) default) := by
  rw [field, Json.lookup_pruneFields, hlookup, unlessGone]
  cases gone [name] with
  | true => rfl
  | false => exact h (gone.inside name) x

/-- **A field** that is written if it is set. -/
theorem Restores.field_optional_eq (h : Restores read encode left)
    (hpresent : ∀ gone x, TreeReader.json.isAbsent? ((encode x).prune gone) = some false)
    (name : String) (x : Option α) (hlookup : fields.lookup name = x.map encode) :
    field (pruneFields gone fields) name (TreeReader.json.optional read) none =
      some (unlessGone gone name (x.map (left (gone.inside name))) none) := by
  rw [field, Json.lookup_pruneFields, hlookup, unlessGone]
  cases gone [name] with
  | true => rfl
  | false =>
    cases x with
    | none => rfl
    | some x =>
      change TreeReader.json.optional read _ = _
      rw [TreeReader.optional, hpresent, h]
      rfl

/-- The entries of a map that are left, with what is left of their values. -/
def leftEntries (left : Places → α → α) (gone : Places) (d : Dict α) : Dict α :=
  (d.filter fun name _ => !gone [name]).mapValues fun name x => left (gone.inside name) x

theorem Restores.mapM_eq (h : Restores read encode left) (entries : List (String × α)) :
    (entries.map fun (name, x) => (name, (encode x).prune (gone.inside name))).mapM
        (fun (name, n) => (read n).map (name, ·)) =
      some (entries.map fun e => (e.1, left (gone.inside e.1) e.2)) := by
  induction entries with
  | nil => rfl
  | cons e rest ih =>
    rw [List.map_cons, List.mapM_cons, ih]
    change ((read _).map _).bind _ = _
    rw [h]
    rfl

/-- **A map** of values that are restored. -/
theorem Restores.dict (h : Restores read encode left) :
    Restores (fun n => (TreeReader.json.entries read n).map .ofList)
      (fun d : Dict α => .obj (d.entries.map fun (name, x) => (name, encode x)))
      (leftEntries left) := by
  intro gone d
  change Option.map Dict.ofList ((pruneFields gone _).mapM _) = _
  rw [Json.pruneFields_map, h.mapM_eq]
  exact congrArg some (Dict.ofList_entries (leftEntries left gone d))

end Restoring

/-! ### Scalars -/

theorem restores_bool : Restores TreeReader.json.bool? .bool fun _ b => b := fun _ _ => rfl

theorem restores_nat : Restores TreeReader.json.nat? .ofNat fun _ n => n := by
  intro _ n
  change Json.nat64? (.int n) = some n
  rw [Json.nat64?, if_pos (Int.natCast_nonneg n), Int.toNat_natCast]

theorem restores_float : Restores TreeReader.json.float? .real fun _ x => x := fun _ _ => rfl

theorem restores_text : Restores TreeReader.json.text? .str fun _ s => s := fun _ _ => rfl

/-- A choice is restored if its name tells it. -/
theorem restores_chosen {α : Type} {ofName? : String → Option α} {name : α → String}
    (h : ∀ x, ofName? (name x) = some x) :
    Restores (TreeReader.json.chosen ofName?) (fun x => .str (name x)) fun _ x => x :=
  fun _ x => h x

theorem UnexpectedErrorPolicy.ofName?_name (p : UnexpectedErrorPolicy) :
    ofName? p.name = some p := by
  cases p <;> decide +kernel

theorem LogFormat.ofName?_name (f : LogFormat) : ofName? f.name = some f := by
  cases f <;> decide +kernel

theorem ofName?_levelName (l : Log.Level) : Log.Level.ofName? l.name = some l := by
  rcases l with _ | s
  · decide +kernel
  · cases s <;> decide +kernel

/-! ### Records -/

/-- The settings for transaction events without some places. -/
def EventSettings.without (gone : Places) (s : EventSettings) : EventSettings :=
  let default : EventSettings := {}
  { enabled := unlessGone gone "enabled" s.enabled default.enabled
    maxSamplesStored :=
      unlessGone gone "max_samples_stored" s.maxSamplesStored default.maxSamplesStored
    targetSamplesStored :=
      unlessGone gone "target_samples_stored" s.targetSamplesStored default.targetSamplesStored }

theorem EventSettings.restores :
    Restores (EventSettings.read? .json) EventSettings.toJson EventSettings.without := by
  intro gone s
  rw [toJson, read?, record_prune]
  -- the defaults are written out
  dsimp only
  rw [restores_bool.field_eq "enabled" s.enabled,
    restores_nat.field_eq "max_samples_stored" s.maxSamplesStored,
    restores_nat.field_eq "target_samples_stored" s.targetSamplesStored]
  all_goals rfl

/-- An override without some places: what is gone is open again. -/
def AppOverride.without (gone : Places) (o : AppOverride) : AppOverride where
  enabled := unlessGone gone "enabled" o.enabled none
  maxSamplesStored := unlessGone gone "max_samples_stored" o.maxSamplesStored none
  targetSamplesStored := unlessGone gone "target_samples_stored" o.targetSamplesStored none

theorem lookup_optionalField {α : Type} (name key : String) (encode : α → Json) (x : Option α) :
    (optionalField name encode x).lookup key = if key = name then x.map encode else none := by
  cases x with
  | none => simp [optionalField]
  | some x =>
    by_cases h : key = name
    · simp [optionalField, h]
    · simp [optionalField, List.lookup_cons, beq_false_of_ne h, h]

theorem AppOverride.restores :
    Restores (AppOverride.read? .json) AppOverride.toJson AppOverride.without := by
  intro gone o
  rw [toJson, read?, record_prune]
  rw [restores_bool.field_optional_eq (fun _ _ => rfl) "enabled" o.enabled,
    restores_nat.field_optional_eq (fun _ _ => rfl) "max_samples_stored" o.maxSamplesStored,
    restores_nat.field_optional_eq (fun _ _ => rfl) "target_samples_stored" o.targetSamplesStored]
  · simp [without]
  all_goals simp [List.lookup_append, lookup_optionalField]

/-- The limits for synthetic events without some places. -/
def SyntheticsSettings.without (gone : Places) (s : SyntheticsSettings) : SyntheticsSettings :=
  let default : SyntheticsSettings := {}
  { maxEventsPerApp := unlessGone gone "max_events_per_app" s.maxEventsPerApp default.maxEventsPerApp
    maxPendingBatches :=
      unlessGone gone "max_pending_batches" s.maxPendingBatches default.maxPendingBatches
    maxBatchesPerHarvest :=
      unlessGone gone "max_batches_per_harvest" s.maxBatchesPerHarvest
        default.maxBatchesPerHarvest }

theorem SyntheticsSettings.restores :
    Restores (SyntheticsSettings.read? .json) SyntheticsSettings.toJson
      SyntheticsSettings.without := by
  intro gone s
  rw [toJson, read?, record_prune]
  dsimp only
  rw [restores_nat.field_eq "max_events_per_app" s.maxEventsPerApp,
    restores_nat.field_eq "max_pending_batches" s.maxPendingBatches,
    restores_nat.field_eq "max_batches_per_harvest" s.maxBatchesPerHarvest]
  all_goals rfl

/-- The harvest cycle without some places. -/
def HarvestSettings.without (gone : Places) (s : HarvestSettings) : HarvestSettings :=
  let default : HarvestSettings := {}
  { reportPeriod := unlessGone gone "report_period" s.reportPeriod default.reportPeriod
    unexpectedErrors :=
      unlessGone gone "unexpected_errors" s.unexpectedErrors default.unexpectedErrors
    synthetics :=
      unlessGone gone "synthetics" (s.synthetics.without (gone.inside "synthetics"))
        default.synthetics }

theorem HarvestSettings.restores :
    Restores (HarvestSettings.read? .json) HarvestSettings.toJson HarvestSettings.without := by
  intro gone s
  rw [toJson, read?, record_prune]
  dsimp only
  rw [restores_nat.field_eq "report_period" s.reportPeriod,
    (restores_chosen UnexpectedErrorPolicy.ofName?_name).field_eq "unexpected_errors"
      s.unexpectedErrors,
    SyntheticsSettings.restores.field_eq "synthetics" s.synthetics]
  all_goals rfl

/-- The metrics settings without some places. -/
def MetricsSettings.without (gone : Places) (s : MetricsSettings) : MetricsSettings :=
  let default : MetricsSettings := {}
  { statsd := unlessGone gone "statsd" s.statsd default.statsd
    stem := unlessGone gone "prefix" s.stem default.stem
    defaultTags :=
      unlessGone gone "default_tags"
        (s.defaultTags.filter fun tag _ => !gone ["default_tags", tag]) default.defaultTags
    sampleRate := unlessGone gone "sample_rate" s.sampleRate default.sampleRate }

theorem MetricsSettings.restores :
    Restores (MetricsSettings.read? .json) MetricsSettings.toJson MetricsSettings.without := by
  intro gone s
  rw [toJson, read?, record_prune]
  dsimp only
  rw [restores_text.field_optional_eq (fun _ _ => rfl) "statsd" s.statsd,
    restores_text.field_eq "prefix" s.stem,
    restores_text.dict.field_eq "default_tags" s.defaultTags,
    restores_float.field_eq "sample_rate" s.sampleRate]
  · simp [without, leftEntries, Dict.mapValues_eq_self, Places.inside]
  all_goals simp [List.lookup_append, lookup_optionalField, List.lookup_cons]

/-- The log settings without some places. -/
def LogSettings.without (gone : Places) (s : LogSettings) : LogSettings :=
  let default : LogSettings := {}
  { level := unlessGone gone "level" s.level default.level
    format := unlessGone gone "format" s.format default.format
    enableBacktraces :=
      unlessGone gone "enable_backtraces" s.enableBacktraces default.enableBacktraces }

theorem LogSettings.restores :
    Restores (LogSettings.read? .json) LogSettings.toJson LogSettings.without := by
  intro gone s
  rw [toJson, read?, record_prune]
  dsimp only
  rw [(restores_chosen ofName?_levelName).field_eq "level" s.level,
    (restores_chosen LogFormat.ofName?_name).field_eq "format" s.format,
    restores_bool.field_eq "enable_backtraces" s.enableBacktraces]
  all_goals rfl

/-! ### The whole configuration -/

/-- **The settings without some places** of their tree. -/
def Settings.without (gone : Places) (s : Settings) : Settings :=
  let default : Settings := {}
  { logging :=
      unlessGone gone "logging" (s.logging.without (gone.inside "logging")) default.logging
    metrics :=
      unlessGone gone "metrics" (s.metrics.without (gone.inside "metrics")) default.metrics
    transactionEvents :=
      unlessGone gone "transaction_events"
        (s.transactionEvents.without (gone.inside "transaction_events")) default.transactionEvents
    harvest :=
      unlessGone gone "harvest" (s.harvest.without (gone.inside "harvest")) default.harvest
    apps :=
      unlessGone gone "apps"
        ((s.apps.filter fun app _ => !gone ["apps", app]).mapValues fun app o =>
          o.without ((gone.inside "apps").inside app)) default.apps }

/-- **The section of overrides**, which is only written if there are any. -/
theorem field_apps_eq {gone : Places} {fields : List (String × Json)} (apps : Dict AppOverride)
    (hlookup : fields.lookup "apps" = (appsField apps).lookup "apps") :
    field (pruneFields gone fields) "apps"
        (fun n => (TreeReader.json.entries (AppOverride.read? .json) n).map .ofList) .empty =
      some (unlessGone gone "apps"
        (leftEntries AppOverride.without (gone.inside "apps") apps) .empty) := by
  by_cases hempty : apps.isEmpty
  · have happs : apps = .empty := Dict.ext (List.isEmpty_iff.1 hempty)
    subst happs
    rw [field, Json.lookup_pruneFields, hlookup, unlessGone]
    cases gone ["apps"] <;> rfl
  · refine AppOverride.restores.dict.field_eq "apps" apps ?_ .empty
    rw [hlookup, appsField, if_neg hempty]
    rfl

theorem Settings.restores :
    Restores (Settings.read? .json) Settings.toJson Settings.without := by
  intro gone s
  rw [toJson, read?, record_prune]
  dsimp only
  rw [LogSettings.restores.field_eq "logging" s.logging,
    MetricsSettings.restores.field_eq "metrics" s.metrics,
    EventSettings.restores.field_eq "transaction_events" s.transactionEvents,
    HarvestSettings.restores.field_eq "harvest" s.harvest, field_apps_eq s.apps]
  all_goals rfl

/-- **Settings without no places** are what they were. -/
theorem Settings.without_nowhere (s : Settings) : s.without (fun _ => false) = s := by
  change { s with
    metrics.defaultTags := s.metrics.defaultTags.filter fun _ _ => true
    apps := (s.apps.filter fun _ _ => true).mapValues fun _ o => o } = s
  rw [Dict.filter_true, Dict.filter_true, Dict.mapValues_eq_self]

/-- **A saved configuration loads as it was**, and whatever fields are deleted from its tree, as it
was but for these. -/
theorem Settings.ofJson_toJson (s : Settings) :
    ofJson s.toJson = .ok s ∧
      ∀ gone : Places, ofJson (s.toJson.prune gone) = .ok (s.without gone) := by
  have hprune : ∀ gone : Places, ofJson (s.toJson.prune gone) = .ok (s.without gone) := by
    intro gone
    rw [ofJson, Settings.restores gone s]
  refine ⟨?_, hprune⟩
  have hall := hprune fun _ => false
  rwa [Json.prune_nowhere, s.without_nowhere] at hall

end Telemetry.Config
