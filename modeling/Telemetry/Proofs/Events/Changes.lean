import Telemetry.Proofs.Events.Directives
import Telemetry.Proofs.Events.Revival

/-!
# What a configuration change touches

A change takes live ordinary reservoirs away, and nothing else from the store
(`Service.DropsOnly`). The two kinds of change differ in whose they take:

| change | drops the live ordinary reservoir of | capacity of the backlog |
|---|---|---|
| settings pushed for an application | that application, if they disable it | as before |
| a file loaded again | whoever it and the settings pushed so far disable | that of the file |

Either way all reservoirs stay where they are, with what they hold, and the batches that wait go
on waiting. From then on each application is decided about by its new settings, whatever had been
decided before (`Run.change_dropsOnly`); and those that have been pushed for it win over every
file, loaded before or after.
-/

namespace Telemetry.Events

open Sampling (HasPriority)
open Directive (resolve)

variable {E : Type}

namespace Service

/-- **Some applications lose their live ordinary reservoir**, and nothing else happens but to what
settings are made of and to the capacity of the backlog. -/
structure DropsOnly (dropped : String → Prop) (s s' : Service E) : Prop where
  ordinary : ∀ app ref, s'.liveRef? .ordinary app = some ref ↔
    s.liveRef? .ordinary app = some ref ∧ ¬ dropped app
  synthetic : ∀ app, s'.liveRef? .synthetic app = s.liveRef? .synthetic app
  pool : s'.pool = s.pool
  queue : s'.backlog.queue = s.backlog.queue
  enabled : s'.enabled = s.enabled
  isShutDown : s'.isShutDown = s.isShutDown
  maxSamplesStored : s'.maxSamplesStored = s.maxSamplesStored
  names : s'.names = s.names
  namesVersion : s'.namesVersion = s.namesVersion

/-- Settings that are pushed concern their application only. -/
theorem dropsOnly_change_app (s : Service E) (app : String) (settings : Config.EventSettings) :
    s.DropsOnly (fun app' => app' = app ∧ settings.enabled = false)
      (s.change (.app app settings)).1 ∧
      (s.change (.app app settings)).1.backlog = s.backlog := by
  obtain ⟨_ | _, capacity, target⟩ := settings
  · -- disabled
    refine ⟨⟨fun app' ref => ?_, fun app' => ?_, rfl, rfl, rfl, rfl, rfl, rfl, rfl⟩, rfl⟩
    · change (s.live.remove .ordinary app).get? .ordinary app' = some ref ↔ _
      rw [Store.get?_remove]
      by_cases happ : app' = app
      · simp [happ]
      · rw [if_neg fun hcon => happ hcon.2]
        exact (and_iff_left fun hcon => happ hcon.1).symm
    · change (s.live.remove .ordinary app).get? .synthetic app' = _
      rw [Store.get?_remove, if_neg fun hcon => (by decide : Kind.synthetic ≠ .ordinary) hcon.1]
      rfl
  · refine ⟨⟨fun app' ref => ?_, fun _ => rfl, rfl, rfl, rfl, rfl, rfl, rfl, rfl⟩, rfl⟩
    exact (and_iff_left fun hcon => Bool.false_ne_true hcon.2.symm).symm

/-- A file that is loaded again concerns all that it does not let be collected. -/
theorem dropsOnly_change_reloaded (s : Service E) (settings : Config.Settings) :
    s.DropsOnly (fun app => (s.change (.reloaded settings)).1.isCollected app = false)
      (s.change (.reloaded settings)).1 ∧
      (s.change (.reloaded settings)).1.backlog =
        { s.backlog with capacity := settings.harvest.synthetics.maxPendingBatches } := by
  refine ⟨⟨fun app ref => ?_, fun _ => rfl, rfl, rfl, rfl, rfl, rfl, rfl, rfl⟩, rfl⟩
  change (s.change (.reloaded settings)).1.live.ordinary.get? app = some ref ↔ _
  rw [ordinary_reloaded, Dict.get?_filter, Option.filter_eq_some_iff]
  exact and_congr_right fun _ => (iff_of_eq (Bool.not_eq_false _)).symm

end Service

namespace Run

variable [HasPriority E]

/-- **A change touches only what it must.** At whatever point of whatever run it is made: pushed
settings take the live ordinary reservoir of their application away if they disable it, and a file
that is loaded again takes those away that are disabled by it and by all that has been pushed; of
the rest of the store and of the backlog only the capacity changes. Afterwards each application
is collected as what has been said so far says. -/
theorem change_dropsOnly (initial : Config.Settings) (transport : Transport E Empty)
    (steps : List (Step E Empty)) (random : Random.Source) (n : Nat) (c : ConfigChange) :
    let r := fresh initial transport steps random
    let s := (r.advance (.idle E) n).service
    let s' := (s.change c).1
    let collects := fun app =>
      (resolve initial (r.directives (.idle E) n ++ [.change c]) app).enabled
    (match c with
      | .app app settings =>
        s.DropsOnly (fun app' => app' = app ∧ settings.enabled = false) s' ∧
          s'.backlog = s.backlog
      | .reloaded settings =>
        s.DropsOnly (fun app => collects app = false) s' ∧
          s'.backlog =
            { s.backlog with capacity := settings.harvest.synthetics.maxPendingBatches }) ∧
      ∀ app, (s'.askEnabled app).1 = collects app := by
  intro r s s' collects
  have hfollows : s'.Follows initial (r.directives (.idle E) n ++ [.change c]) :=
    (follows_fresh initial transport steps random n).follow (.change c)
  have hcollected : ∀ app, s'.isCollected app = collects app := fun app =>
    congrArg Config.EventSettings.enabled (hfollows.appSettings app)
  have hcandid : s'.IsCandid := Service.isCandid_change
    (isCandid_advance (isCandid_fresh initial transport steps random) n) c
  refine ⟨?_, fun app => (hcandid.fst_askEnabled app).trans (hcollected app)⟩
  cases c with
  | app app settings => exact s.dropsOnly_change_app app settings
  | reloaded settings =>
    have hdropped : (fun app => collects app = false) = fun app => s'.isCollected app = false := by
      funext app
      rw [hcollected]
    rw [hdropped]
    exact s.dropsOnly_change_reloaded settings

/-- An application that was disabled stays so when a file enables all. -/
example : (resolve {} [.change (.app "a" { enabled := false }), .change (.reloaded {})]
    "a").enabled = false := by
  decide

end Run

end Telemetry.Events
