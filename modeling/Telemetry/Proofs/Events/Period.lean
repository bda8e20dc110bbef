import Telemetry.Config.Override
import Telemetry.Events.Session
import Telemetry.Proofs.Events.Outside
import Telemetry.Simulation.Event

/-!
# The interval that is kept

An application is harvested at the interval that its configuration asks for, or that has been set
for it since. Neither is ever meant to be zero: zero seconds count as one, and less than a
millisecond counts as one. Then the milliseconds are cut to 64 bits.

| made for | milliseconds asked for | kept as zero if |
|---|---|---|
| `n` configured seconds | `max n 1 * 1000` | `n` is a multiple of `2 ^ 61`, and not zero |
| a duration of `m` milliseconds | `max m 1` | `m` is a multiple of `2 ^ 64`, and not zero |

So what is asked for is kept exactly if it fits (`storedMilliseconds_eq_self_iff`), and what does
not fit may be kept as zero. An interval that is kept stays until another one is set, whatever is
called in between: only a probe changes what is observed (`Run.observed_step`), and only one changes
the interval of an application (`Session.get?_act`).
-/

namespace Telemetry.Events

open Sampling (HasPriority)

variable {E : Type}

/-! ### What a session keeps -/

/-- A probe that sets the interval of an application. -/
def Probe.Sets (app : String) : Probe E → Prop
  | .configure app' _ _ => app' = app
  | _ => False

/-- The interval told is the one kept. -/
@[simp] theorem Harvestable.milliseconds_reportPeriod (h : Harvestable) :
    h.reportPeriod.milliseconds = h.period := by
  simp only [reportPeriod, Duration.ofNanoseconds, Duration.milliseconds]
  omega

namespace Session

variable [HasPriority E] {session : Session} {app : String} {kept : Harvestable}

omit [HasPriority E] in
theorem harvestable_of_get? (h : session.harvestables.get? app = some kept)
    (service : Service E) : session.harvestable service app = kept := by
  rw [harvestable, h, Option.getD_some]

theorem get?_keep (session : Session) (app' : String) (h : Harvestable) (app : String) :
    (session.keep app' h).harvestables.get? app =
      if app = app' then some h else session.harvestables.get? app :=
  Dict.get?_insert ..

/-- The first time an application is planned, its interval is the configured one. -/
theorem get?_act_plan (h : session.harvestables.get? app = none) (service : Service E) :
    (act (.plan app) session service).1.harvestables.get? app = some (.create service app) := by
  change (session.keep app (session.harvestable service app)).harvestables.get? app = _
  rw [get?_keep, if_pos rfl, harvestable, h, Option.getD_none]

theorem get?_act_configure (session : Session) (service : Service E) (app : String)
    (d : Duration) (capacity : Nat) :
    (act (.configure app d capacity) session service).1.harvestables.get? app =
      some { session.harvestable service app with period := requestedPeriod d } := by
  change (session.keep app _).harvestables.get? app = _
  rw [get?_keep, if_pos rfl]

/-- **An interval that is kept** stays until it is set: to plan an application again changes
nothing. -/
theorem get?_act (h : session.harvestables.get? app = some kept) {p : Probe E}
    (hp : ¬ p.Sets app) (service : Service E) :
    (act p session service).1.harvestables.get? app = some kept := by
  cases p with
  | mention app' =>
    change (if session.apps.contains app' then session else _).harvestables.get? app = _
    split <;> exact h
  | hold app' kind name =>
    rw [act]
    split <;> exact h
  | offerHeld name event =>
    rw [act]
    split <;> exact h
  | countHeld name =>
    rw [act]
    split <;> exact h
  | share name => exact h
  | plan app' =>
    change (session.keep app' (session.harvestable service app')).harvestables.get? app = _
    rw [get?_keep]
    split
    next heq => rw [← heq, harvestable_of_get? h]
    next => exact h
  | configure app' d capacity =>
    change (session.keep app' _).harvestables.get? app = _
    rw [get?_keep, if_neg fun heq => hp heq.symm]
    exact h
  | breakDown => exact h

end Session

/-! ### What fits is kept -/

theorem storedMilliseconds_eq_self_iff (n : Nat) : storedMilliseconds n = n ↔ n < 2 ^ 64 :=
  Nat.mod_eq_iff_lt (by decide)

theorem storedMilliseconds_eq_zero_iff (n : Nat) : storedMilliseconds n = 0 ↔ 2 ^ 64 ∣ n :=
  (Nat.dvd_iff_mod_eq_zero ..).symm

/-- A thousand has three factors of two. -/
theorem two_pow_dvd_mul_thousand (n : Nat) : 2 ^ 64 ∣ n * 1000 ↔ 2 ^ 61 ∣ n := by
  omega

/-- One is no multiple of a larger number. -/
theorem dvd_max_one_iff {k : Nat} (hk : 1 < k) (n : Nat) : k ∣ max n 1 ↔ n ≠ 0 ∧ k ∣ n := by
  rcases Nat.eq_zero_or_pos n with rfl | hpos
  · exact ⟨fun hdvd => absurd (Nat.le_of_dvd Nat.one_pos hdvd) (Nat.not_le.2 hk),
      fun hne => absurd rfl hne.1⟩
  · rw [max_eq_left hpos]
    exact ⟨fun hdvd => ⟨hpos.ne', hdvd⟩, And.right⟩

theorem configuredPeriod_eq (h : Config.HarvestSettings) :
    configuredPeriod h = storedMilliseconds (max h.reportPeriod 1 * 1000) := by
  rw [configuredPeriod, Duration.milliseconds, Config.HarvestSettings.periodSeconds, Nat.zero_div,
    Nat.add_zero]

/-- **A configured interval** is kept as zero if the seconds are a multiple of `2 ^ 61`, and not
zero. -/
theorem configuredPeriod_eq_zero_iff (h : Config.HarvestSettings) :
    configuredPeriod h = 0 ↔ h.reportPeriod ≠ 0 ∧ 2 ^ 61 ∣ h.reportPeriod := by
  rw [configuredPeriod_eq, storedMilliseconds_eq_zero_iff, two_pow_dvd_mul_thousand,
    dvd_max_one_iff (by decide)]

/-- The nanoseconds of a duration. -/
def Duration.total (d : Duration) : Nat := d.seconds * 1000000000 + d.nanoseconds

/-- The milliseconds of a duration are its nanoseconds, rounded down. -/
theorem requestedPeriod_eq (d : Duration) :
    requestedPeriod d = storedMilliseconds (max (d.total / 1000000) 1) := by
  have hmilliseconds : d.milliseconds = d.total / 1000000 := by
    rw [Duration.milliseconds, Duration.total]
    omega
  rw [requestedPeriod, hmilliseconds]

/-- **An interval that is set** is kept as zero if its milliseconds are a multiple of `2 ^ 64`, and
not zero. -/
theorem requestedPeriod_eq_zero_iff (d : Duration) :
    requestedPeriod d = 0 ↔ d.total / 1000000 ≠ 0 ∧ 2 ^ 64 ∣ d.total / 1000000 := by
  rw [requestedPeriod_eq, storedMilliseconds_eq_zero_iff, dvd_max_one_iff (by decide)]

/-! ### The interval in a run -/

namespace Run

variable [HasPriority E] {r : Run E (Probe E) Session} {app : String}
  {kept : Harvestable}

/-- The interval of an application in milliseconds, as it is told at some point of a run. -/
def interval (r : Run E (Probe E) Session) (app : String) : Nat :=
  (r.observed.harvestable r.service app).reportPeriod.milliseconds

/-- **An interval that is kept** stays, as long as none of the steps sets it. -/
theorem get?_advance (h : r.observed.harvestables.get? app = some kept) {n : Nat}
    (hnot : ∀ k < n, ∀ p, (r.advance Session.observer k).probe? = some p → ¬ p.Sets app) :
    (r.advance Session.observer n).observed.harvestables.get? app = some kept := by
  induction n generalizing r with
  | zero => exact h
  | succ n ih =>
    cases hstep : r.step Session.observer with
    | none => rwa [advance_succ_of_none hstep]
    | some r' =>
      rw [advance_succ_of_some hstep]
      refine ih ?_ fun k hk p hp => hnot (k + 1) (Nat.succ_lt_succ hk) p ?_
      · obtain ⟨hprobe, hother⟩ := observed_step hstep
        cases hp : r.probe? with
        | none => rwa [hother hp]
        | some p =>
          rw [hprobe p hp]
          exact Session.get?_act h (hnot 0 (Nat.succ_pos n) p hp) r.service
      · rwa [advance_succ_of_some hstep]

/-- What a probe makes the interval of an application is what it is later, as long as it is not set
again. -/
theorem interval_of_probe {p : Probe E} (hp : r.probe? = some p)
    (hset : (Session.act p r.observed r.service).1.harvestables.get? app = some kept) {n : Nat}
    (hnot : ∀ k, 0 < k → k ≤ n → ∀ q,
      (r.advance Session.observer k).probe? = some q → ¬ q.Sets app) :
    (r.advance Session.observer (n + 1)).interval app = kept.period := by
  obtain ⟨r', hstep⟩ : ∃ r', r.step Session.observer = some r' := by
    cases hstep : r.step Session.observer with
    | some r' => exact ⟨r', rfl⟩
    | none =>
      have hnone : r.probe? = none := by rw [probe?, step_eq_none_iff.1 hstep]
      exact absurd (hp.symm.trans hnone) (Option.some_ne_none p)
  rw [advance_succ_of_some hstep]
  have hmade : r'.observed.harvestables.get? app = some kept := by
    rw [(observed_step hstep).1 p hp]
    exact hset
  have hlater := get?_advance hmade (n := n) fun k hk q hq =>
    hnot (k + 1) (Nat.succ_pos k) hk q (by rwa [advance_succ_of_some hstep])
  rw [interval, Session.harvestable_of_get? hlater, Harvestable.milliseconds_reportPeriod]

/-- **The harvest interval of an application**, at any time after it has been made for the
configuration or set to a duration, and before it is set again. It is what was asked for exactly if
that fits into 64 bits of milliseconds, where nothing is taken for the least there is, a second or
a millisecond. It is zero exactly if what was asked for is, in milliseconds, a multiple of
`2 ^ 64`. -/
theorem interval_iff {p : Probe E} (hp : r.probe? = some p) {n : Nat}
    (hnot : ∀ k, 0 < k → k ≤ n → ∀ q,
      (r.advance Session.observer k).probe? = some q → ¬ q.Sets app) :
    let interval := (r.advance Session.observer (n + 1)).interval app
    (p = .plan app → r.observed.harvestables.get? app = none →
      let seconds := r.service.settings.harvest.reportPeriod
      (interval = max seconds 1 * 1000 ↔ max seconds 1 * 1000 < 2 ^ 64) ∧
        (interval = 0 ↔ seconds ≠ 0 ∧ 2 ^ 61 ∣ seconds)) ∧
    ∀ d capacity, p = .configure app d capacity →
      let milliseconds := d.total / 1000000
      (interval = max milliseconds 1 ↔ max milliseconds 1 < 2 ^ 64) ∧
        (interval = 0 ↔ milliseconds ≠ 0 ∧ 2 ^ 64 ∣ milliseconds) := by
  intro interval
  refine ⟨?_, ?_⟩
  · rintro rfl hnew seconds
    have hmade : interval = configuredPeriod r.service.settings.harvest :=
      interval_of_probe hp (Session.get?_act_plan hnew r.service) hnot
    rw [hmade]
    refine ⟨?_, configuredPeriod_eq_zero_iff _⟩
    rw [configuredPeriod_eq]
    exact storedMilliseconds_eq_self_iff _
  · rintro d capacity rfl milliseconds
    have hset : interval = requestedPeriod d := interval_of_probe hp
      (Session.get?_act_configure r.observed r.service app d capacity) hnot
    rw [hset]
    refine ⟨?_, requestedPeriod_eq_zero_iff d⟩
    rw [requestedPeriod_eq]
    exact storedMilliseconds_eq_self_iff _

open Simulation (Event) in
/-- A run that plans two applications for some configured seconds, and configures one of them. -/
def planningRun (seconds : Nat) (d : Duration) : Run Event (Probe Event) Session where
  service := (Service.create { harvest := { reportPeriod := seconds } }).1
  stack := [.steps [.probe (.plan "a"), .probe (.plan "b"), .probe (.configure "a" d 3)]]
  random := .ofSeed 0
  observed := {}

/-- What fits is kept: five seconds, and later of a millisecond and a half the whole one. -/
theorem interval_iff_planningRun :
    let r := planningRun 5 ⟨0, 1500000⟩
    let r' := r.advance Session.observer 2
    (r.advance Session.observer 2).interval "a" = 5000 ∧
      (r'.advance Session.observer 1).interval "a" = 1 := by
  intro r r'
  have hplanned : ∀ k, 0 < k → k ≤ 1 → ∀ q,
      (r.advance Session.observer k).probe? = some q → ¬ q.Sets "a" := by
    intro k hpos hle q hq
    obtain rfl : k = 1 := by omega
    obtain rfl := Option.some.inj hq
    exact not_false
  have hset : r'.probe? = some (.configure "a" ⟨0, 1500000⟩ 3) := rfl
  have hlast : ∀ k, 0 < k → k ≤ 0 → ∀ q,
      (r'.advance Session.observer k).probe? = some q → ¬ q.Sets "a" :=
    fun k hpos hle => absurd hpos (Nat.not_lt.2 hle)
  have hfirst := ((interval_iff rfl hplanned).1 rfl rfl).1
  have hsecond := ((interval_iff hset hlast).2 ⟨0, 1500000⟩ 3 rfl).1
  exact ⟨(hfirst.2 (by decide +kernel)).trans (by decide +kernel), hsecond.2 (by decide +kernel)⟩

/-- **An interval of zero**: the seconds are accepted as an override, and the interval is made for
them; and an interval of zero is what a duration of `2 ^ 64` milliseconds leaves. -/
theorem interval_planningRun_eq_zero :
    let seconds := 2305843009213693952
    let d : Duration := ⟨18446744073709551, 616000000⟩
    let settings := ({} : Config.Settings).override { reportPeriod := some "2305843009213693952" }
    let r := planningRun seconds d
    settings.2 = none ∧ settings.1.harvest.reportPeriod = seconds ∧
      (r.advance Session.observer 1).interval "a" = 0 ∧
        (r.advance Session.observer 3).interval "a" = 0 := by
  decide +kernel

end Run

end Telemetry.Events
