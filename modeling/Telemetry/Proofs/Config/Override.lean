import Telemetry.Config.Override
import Mathlib.Data.List.Nodup

/-!
# Overrides that fail

Overrides are applied one after the other, and the first that cannot be understood stops those
after it. The fields are overridden in this order:

| field | cannot be understood |
|---|---|
| `OverrideField.logLevel` | a text that is the name of no level |
| `OverrideField.statsd` | – |
| `OverrideField.maxSamplesStored` | a text that is no number of 64 bits |
| `OverrideField.reportPeriod` | a text that is no number of 64 bits, and zero |

So a failure need not leave the settings as they were. It leaves them as the overrides before the
one that failed have made them, as if only these had been given (`Settings.override_of_failed`):
what fails, and what comes after it, leaves no trace (`Settings.SameBut`).
-/

namespace Telemetry.Config

/-- A setting that can be overridden. -/
inductive OverrideField
  | logLevel
  | statsd
  | maxSamplesStored
  | reportPeriod
  deriving DecidableEq

namespace OverrideField

/-- The fields in the order in which they are overridden. -/
def all : List OverrideField := [.logLevel, .statsd, .maxSamplesStored, .reportPeriod]

/-- The name of a field in errors. -/
def name : OverrideField → String
  | .logLevel => "log_level"
  | .statsd => "statsd"
  | .maxSamplesStored => "max_samples_stored"
  | .reportPeriod => "report_period"

/-- How a field is overridden. -/
def apply : OverrideField → Settings → String → Except Error Settings
  | .logLevel => Settings.overrideLevel
  | .statsd => Settings.overrideStatsd
  | .maxSamplesStored => Settings.overrideCapacity
  | .reportPeriod => Settings.overridePeriod

end OverrideField

/-- The text that is given for a field. -/
def Overrides.text (o : Overrides) : OverrideField → Option String
  | .logLevel => o.logLevel
  | .statsd => o.statsd
  | .maxSamplesStored => o.maxSamplesStored
  | .reportPeriod => o.reportPeriod

/-- The overrides of some fields only. -/
def Overrides.only (o : Overrides) (fields : List OverrideField) : Overrides where
  logLevel := if .logLevel ∈ fields then o.logLevel else none
  statsd := if .statsd ∈ fields then o.statsd else none
  maxSamplesStored := if .maxSamplesStored ∈ fields then o.maxSamplesStored else none
  reportPeriod := if .reportPeriod ∈ fields then o.reportPeriod else none

variable {s s' s'' : Settings} {o : Overrides} {f : OverrideField} {fields : List OverrideField}
  {text : String} {e : Error}

theorem Overrides.text_only (o : Overrides) (fields : List OverrideField) (f : OverrideField) :
    (o.only fields).text f = if f ∈ fields then o.text f else none := by
  cases f <;> rfl

/-! ### One field -/

namespace Settings

/-- **Settings that are the same** but for some fields. -/
structure SameBut (changed : OverrideField → Prop) (s s' : Settings) : Prop where
  level : ¬ changed .logLevel → s'.logging.level = s.logging.level
  statsd : ¬ changed .statsd → s'.metrics.statsd = s.metrics.statsd
  maxSamplesStored : ¬ changed .maxSamplesStored →
    s'.transactionEvents.maxSamplesStored = s.transactionEvents.maxSamplesStored
  reportPeriod : ¬ changed .reportPeriod → s'.harvest.reportPeriod = s.harvest.reportPeriod
  /-- What cannot be overridden is the same in any case. -/
  rest : { s' with
    logging.level := s.logging.level
    metrics.statsd := s.metrics.statsd
    transactionEvents.maxSamplesStored := s.transactionEvents.maxSamplesStored
    harvest.reportPeriod := s.harvest.reportPeriod } = s

section SameBut

variable {changed changed' : OverrideField → Prop}

theorem SameBut.refl (changed : OverrideField → Prop) (s : Settings) : s.SameBut changed s :=
  ⟨fun _ => rfl, fun _ => rfl, fun _ => rfl, fun _ => rfl, rfl⟩

theorem SameBut.mono (h : s.SameBut changed s') (hle : ∀ f, changed f → changed' f) :
    s.SameBut changed' s' where
  level hn := h.level fun hc => hn (hle _ hc)
  statsd hn := h.statsd fun hc => hn (hle _ hc)
  maxSamplesStored hn := h.maxSamplesStored fun hc => hn (hle _ hc)
  reportPeriod hn := h.reportPeriod fun hc => hn (hle _ hc)
  rest := h.rest

theorem SameBut.trans (h : s.SameBut changed s') (h' : s'.SameBut changed s'') :
    s.SameBut changed s'' where
  level hn := (h'.level hn).trans (h.level hn)
  statsd hn := (h'.statsd hn).trans (h.statsd hn)
  maxSamplesStored hn := (h'.maxSamplesStored hn).trans (h.maxSamplesStored hn)
  reportPeriod hn := (h'.reportPeriod hn).trans (h.reportPeriod hn)
  rest := by
    have hrest := h.rest
    rw [← h'.rest] at hrest
    exact hrest

/-- Settings that differ at no field are equal. -/
theorem SameBut.eq (h : s.SameBut changed s') (hnone : ∀ f, ¬ changed f) : s' = s := by
  have hrest := h.rest
  rw [← h.level (hnone _), ← h.statsd (hnone _), ← h.maxSamplesStored (hnone _),
    ← h.reportPeriod (hnone _)] at hrest
  exact hrest

end SameBut

/-- **A field is all that its override changes**, and an error names it. -/
theorem apply_cases (f : OverrideField) (s : Settings) (text : String) :
    (∃ s', f.apply s text = .ok s' ∧ s.SameBut (· = f) s') ∨
      ∃ fault, f.apply s text = .error (.ofField f.name fault) := by
  cases f with
  | logLevel =>
    change (∃ s', overrideLevel s text = .ok s' ∧ _) ∨ ∃ _, overrideLevel s text = _
    unfold overrideLevel
    split
    · exact .inl ⟨_, rfl, absurd rfl, fun _ => rfl, fun _ => rfl, fun _ => rfl, rfl⟩
    · exact .inr ⟨_, rfl⟩
  | statsd => exact .inl ⟨_, rfl, fun _ => rfl, absurd rfl, fun _ => rfl, fun _ => rfl, rfl⟩
  | maxSamplesStored =>
    change (∃ s', overrideCapacity s text = .ok s' ∧ _) ∨ ∃ _, overrideCapacity s text = _
    unfold overrideCapacity
    split
    · exact .inl ⟨_, rfl, fun _ => rfl, fun _ => rfl, absurd rfl, fun _ => rfl, rfl⟩
    · exact .inr ⟨_, rfl⟩
  | reportPeriod =>
    change (∃ s', overridePeriod s text = .ok s' ∧ _) ∨ ∃ _, overridePeriod s text = _
    unfold overridePeriod
    split
    · exact .inr ⟨_, rfl⟩
    · exact .inl ⟨_, rfl, fun _ => rfl, fun _ => rfl, fun _ => rfl, absurd rfl, rfl⟩
    · exact .inr ⟨_, rfl⟩

/-! ### One field after the other -/

/-- Overrides some fields one after the other. -/
def overrideAll (o : Overrides) (fields : List OverrideField) (state : Settings × Option Error) :
    Settings × Option Error :=
  fields.foldl (fun state f => thenOverride f.apply (o.text f) state) state

theorem override_eq_overrideAll (s : Settings) (o : Overrides) :
    s.override o = overrideAll o OverrideField.all (s, none) :=
  rfl

theorem overrideAll_cons (o : Overrides) (f : OverrideField) (rest : List OverrideField)
    (state : Settings × Option Error) :
    overrideAll o (f :: rest) state =
      overrideAll o rest (thenOverride f.apply (o.text f) state) :=
  rfl

/-- What is not given leaves all as it is. -/
theorem thenOverride_none (apply : Settings → String → Except Error Settings)
    (state : Settings × Option Error) : thenOverride apply none state = state := by
  obtain ⟨s, e | e⟩ := state <;> rfl

/-- After a failure nothing is overridden. -/
theorem overrideAll_failed (o : Overrides) (fields : List OverrideField) (s : Settings)
    (e : Error) : overrideAll o fields (s, some e) = (s, some e) := by
  induction fields with
  | nil => rfl
  | cons f rest ih =>
    have hstep : thenOverride f.apply (o.text f) (s, some e) = (s, some e) := by
      cases o.text f <;> rfl
    rw [overrideAll_cons, hstep]
    exact ih

/-- **A field is passed or fails**: it is passed if it is not given or can be understood. -/
theorem thenOverride_cases (o : Overrides) (f : OverrideField) (s : Settings) :
    (∃ s', thenOverride f.apply (o.text f) (s, none) = (s', none) ∧
      s.SameBut (fun g => g = f ∧ o.text g ≠ none) s') ∨
    ∃ text fault, o.text f = some text ∧ f.apply s text = .error (.ofField f.name fault) ∧
      thenOverride f.apply (o.text f) (s, none) = (s, some (.ofField f.name fault)) := by
  cases htext : o.text f with
  | none => exact .inl ⟨s, rfl, .refl _ s⟩
  | some text =>
    rw [thenOverride]
    rcases apply_cases f s text with ⟨s', happly, hsame⟩ | ⟨fault, happly⟩
    · rw [happly]
      refine .inl ⟨s', rfl, hsame.mono ?_⟩
      rintro g rfl
      exact ⟨rfl, by rw [htext]; exact Option.some_ne_none text⟩
    · rw [happly]
      exact .inr ⟨text, fault, rfl, happly, rfl⟩

/-- **Only the fields that are given** change. -/
theorem sameBut_overrideAll (o : Overrides) (fields : List OverrideField) (s : Settings) :
    s.SameBut (fun f => f ∈ fields ∧ o.text f ≠ none) (overrideAll o fields (s, none)).1 := by
  induction fields generalizing s with
  | nil => exact .refl _ s
  | cons f rest ih =>
    rw [overrideAll_cons]
    rcases thenOverride_cases o f s with ⟨s', hstep, hsame⟩ | ⟨text, fault, -, -, hstep⟩
    · rw [hstep]
      have hfirst : s.SameBut (fun g => g ∈ f :: rest ∧ o.text g ≠ none) s' :=
        hsame.mono fun g hg => ⟨hg.1 ▸ List.mem_cons_self, hg.2⟩
      exact hfirst.trans ((ih s').mono fun g hg => ⟨List.mem_cons_of_mem f hg.1, hg.2⟩)
    · rw [hstep, overrideAll_failed]
      exact .refl _ s

/-- **The field that fails** is reached by overriding those before it, and nothing is overridden
any more. -/
theorem exists_failed (h : (overrideAll o fields (s, none)).2 = some e) :
    ∃ before f after text fault, fields = before ++ f :: after ∧ o.text f = some text ∧
      e = .ofField f.name fault ∧
      f.apply (overrideAll o fields (s, none)).1 text = .error e ∧
      overrideAll o before (s, none) = ((overrideAll o fields (s, none)).1, none) := by
  induction fields generalizing s with
  | nil => nomatch h
  | cons f rest ih =>
    rw [overrideAll_cons] at h ⊢
    rcases thenOverride_cases o f s with ⟨s', hstep, -⟩ | ⟨text, fault, htext, happly, hstep⟩
    · rw [hstep] at h ⊢
      obtain ⟨before, f', after, text, fault, rfl, htext, he, happly, hbefore⟩ := ih h
      refine ⟨f :: before, f', after, text, fault, rfl, htext, he, happly, ?_⟩
      rw [overrideAll_cons, hstep]
      exact hbefore
    · rw [hstep, overrideAll_failed] at h ⊢
      obtain rfl := Option.some.inj h
      exact ⟨[], f, rest, text, fault, rfl, htext, rfl, happly, rfl⟩

/-- Overrides of some fields pass by the others. -/
theorem overrideAll_only (o : Overrides) (kept fields : List OverrideField)
    (state : Settings × Option Error) :
    overrideAll (o.only kept) fields state = overrideAll o (fields.filter (· ∈ kept)) state := by
  induction fields generalizing state with
  | nil => rfl
  | cons f rest ih =>
    rw [overrideAll_cons, Overrides.text_only]
    by_cases hf : f ∈ kept
    · rw [if_pos hf, List.filter_cons_of_pos (by simpa using hf), overrideAll_cons]
      exact ih _
    · rw [if_neg hf, thenOverride_none, List.filter_cons_of_neg (by simpa using hf)]
      exact ih _

/-- The overrides of the first fields are applied as if there were no others. -/
theorem override_only {before after : List OverrideField}
    (hall : OverrideField.all = before ++ after) (s : Settings) (o : Overrides) :
    s.override (o.only before) = overrideAll o before (s, none) := by
  have hnodup : (before ++ after).Nodup := hall ▸ (by decide : OverrideField.all.Nodup)
  have hkept : ∀ f ∈ before, decide (f ∈ before) = true := fun f hf => decide_eq_true hf
  have hdropped : ∀ f ∈ after, ¬ decide (f ∈ before) = true := fun f hf hcon =>
    List.disjoint_of_nodup_append hnodup (of_decide_eq_true hcon) hf
  rw [override_eq_overrideAll, overrideAll_only, hall, List.filter_append,
    List.filter_eq_self.2 hkept, List.filter_eq_nil_iff.2 hdropped, List.append_nil]

/-- **An override that fails** has an error that names the first field that cannot be understood.
The settings are those that the overrides before it make, all of which succeed: they differ from
what they were at the fields that were given before it, and nowhere else. -/
theorem override_of_failed (h : (s.override o).2 = some e) :
    ∃ before f after text fault, OverrideField.all = before ++ f :: after ∧
      e = .ofField f.name fault ∧
      (o.text f = some text ∧ f.apply (s.override o).1 text = .error e) ∧
      s.override (o.only before) = ((s.override o).1, none) ∧
      s.SameBut (fun g => g ∈ before ∧ o.text g ≠ none) (s.override o).1 ∧
      ((∀ g ∈ before, o.text g = none) → (s.override o).1 = s) := by
  have hfailed : (overrideAll o OverrideField.all (s, none)).2 = some e := h
  obtain ⟨before, f, after, text, fault, hall, htext, he, happly, hbefore⟩ := exists_failed hfailed
  have hsame := sameBut_overrideAll o before s
  rw [hbefore] at hsame
  exact ⟨before, f, after, text, fault, hall, he, ⟨htext, happly⟩,
    (override_only hall s o).trans hbefore, hsame,
    fun hnone => hsame.eq fun g hg => hg.2 (hnone g hg.1)⟩

/-- Overrides of which the first two can be understood, and the last one cannot. -/
def halfUnderstood : Overrides where
  logLevel := some "debug"
  statsd := some "127.0.0.1:8125"
  reportPeriod := some "0"

/-- The harvest interval is refused, after the log level has been set. -/
theorem override_halfUnderstood :
    let s : Settings := {}
    (s.override halfUnderstood).2 = some (.ofField "report_period" none) ∧
      (s.override halfUnderstood).1.logging.level = .upTo .debug ∧
      ∃ before f after fault, OverrideField.all = before ++ f :: after ∧
        Error.ofField "report_period" none = .ofField f.name fault ∧
        s.override (halfUnderstood.only before) = ((s.override halfUnderstood).1, none) := by
  intro s
  have hfailed : (s.override halfUnderstood).2 = some (.ofField "report_period" none) := by
    decide +kernel
  obtain ⟨before, f, after, _, fault, hall, hname, -, hbefore, -⟩ := override_of_failed hfailed
  exact ⟨hfailed, by decide +kernel, before, f, after, fault, hall, hname, hbefore⟩

/-- **A failure is not always without effect**: the log level is another one afterwards. -/
theorem override_halfUnderstood_ne :
    let s : Settings := {}
    (s.override halfUnderstood).2 ≠ none ∧ (s.override halfUnderstood).1 ≠ s := by
  intro s
  have hlevel : (s.override halfUnderstood).1.logging.level ≠ s.logging.level := by decide +kernel
  exact ⟨by decide +kernel, fun hsame => hlevel (congrArg (·.logging.level) hsame)⟩

end Settings

end Telemetry.Config
