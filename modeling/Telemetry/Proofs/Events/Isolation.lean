import Telemetry.Proofs.Events.Changes
import Telemetry.Proofs.Events.Reached

/-!
# Applications do not interfere

All applications share one pool, one backlog, one cache of names and one memory of what has been
decided, and a harvest for one of them sends, requeues and drops batches of the others. Still,
what is done for one application is not noticed by another (`Run.unaffected_perform`).

Reservoirs are told apart by whom they belong to. An errand for an application changes no
reservoir that belongs to another one, be it live, waiting or being sent (`Service.Spared`); to
requeue or drop a batch changes the queue and leaves the reservoir alone. A change for an
application begins a new generation, by which all other decisions are forgotten, too; but they are
made again from settings that are as before.
-/

namespace Telemetry.Events

open Sampling (HasPriority Reservoir)

variable {E P S : Type}

/-! ### Steps for an application -/

/-- **A step for an application**, and so are the steps inside it. -/
inductive Step.IsFor (app : String) : Step E P → Prop
  | recordWith (work : Work E) {onAsk onBuild : List (Step E P)}
      {onPriority : List (List (Step E P))} (hask : ∀ s ∈ onAsk, Step.IsFor app s)
      (hbuild : ∀ s ∈ onBuild, Step.IsFor app s)
      (hpriority : ∀ steps ∈ onPriority, ∀ s ∈ steps, Step.IsFor app s) :
      Step.IsFor app (.recordWith app work onAsk onBuild onPriority)
  | recordDrawn (make : Nat → Float → Work E) : Step.IsFor app (.recordDrawn app make)
  | drawPriority : Step.IsFor app (.drawPriority app)
  | harvest : Step.IsFor app (.harvest app)
  | change (settings : Config.EventSettings) : Step.IsFor app (.change (.app app settings))
  | getOrCreate : Step.IsFor app (.getOrCreate app)
  | askEnabled : Step.IsFor app (.askEnabled app)
  | background {steps : List (Step E P)} (hsteps : ∀ s ∈ steps, Step.IsFor app s) :
      Step.IsFor app (.background steps)

/-- A step for an application pushes settings for it, or has nothing to say about settings. -/
theorem Step.IsFor.concerns {app : String} {s : Step E P} (h : s.IsFor app) :
    s.Concerns (Step.IsFor app) app ∨ ∃ settings, s = .change (.app app settings) := by
  cases h with
  | recordWith work hask hbuild hpriority => exact .inl ⟨rfl, hask, hbuild, hpriority⟩
  | change settings => exact .inr ⟨settings, rfl⟩
  | background hsteps => exact .inl hsteps
  | _ => exact .inl rfl

/-! ### What is spared -/

namespace Service

/-- **Nothing happened to an application**: neither to what is live for it, nor to any reservoir
that belongs to it, nor to its settings. -/
structure Spared (app : String) (s s' : Service E) : Prop where
  size : s.pool.size ≤ s'.pool.size
  live : ∀ kind, s'.liveRef? kind app = s.liveRef? kind app
  reservoir : ∀ {kind ref}, s.Belongs kind app ref → s'.reservoir ref = s.reservoir ref
  appSettings : s'.appSettings app = s.appSettings app

variable {s s' s'' : Service E} {app other : String}

theorem Spared.refl (app : String) (s : Service E) : s.Spared app s :=
  ⟨Nat.le_refl _, fun _ => rfl, fun _ => rfl, rfl⟩

theorem Spared.belongs (h : s.Spared app s') {kind : Kind} {ref : Ref}
    (hb : s.Belongs kind app ref) : s'.Belongs kind app ref where
  lt := Nat.lt_of_lt_of_le hb.lt h.size
  app := (congrArg (·.app) (h.reservoir hb)).trans hb.app
  service := (congrArg (·.service) (h.reservoir hb)).trans hb.service

theorem Spared.trans (h : s.Spared app s') (h' : s'.Spared app s'') : s.Spared app s'' where
  size := h.size.trans h'.size
  live kind := (h'.live kind).trans (h.live kind)
  reservoir hb := (h'.reservoir (h.belongs hb)).trans (h.reservoir hb)
  appSettings := h'.appSettings.trans h.appSettings

/-- The pool has not changed. -/
theorem spared_of_pool_eq (hpool : s'.pool = s.pool)
    (hlive : ∀ kind, s'.liveRef? kind app = s.liveRef? kind app)
    (hsettings : s'.appSettings app = s.appSettings app) : s.Spared app s' where
  size := Nat.le_of_eq (congrArg Array.size hpool).symm
  live := hlive
  reservoir _ := by rw [Service.reservoir, Service.reservoir, hpool]
  appSettings := hsettings

/-- The reservoir of one application is not that of another. -/
theorem Belongs.ne {kind kind' : Kind} {ref ref' : Ref} (h : s.Belongs kind app ref)
    (h' : s.Belongs kind' other ref') (hother : other ≠ app) : ref' ≠ ref := by
  rintro rfl
  exact hother (h'.unique h).2

theorem spared_install (s : Service E) (hother : other ≠ app) (kind : Kind) (decidedLast : Nat) :
    s.Spared other (s.install kind app decidedLast).2 where
  size := by
    rw [size_install]
    exact Nat.le_succ _
  live kind' := by rw [liveRef?_install, if_neg fun hcon => hother hcon.2]
  reservoir hb := reservoir_install hb.lt kind app decidedLast
  appSettings := (s.sameSettings_install kind app decidedLast).appSettings other

theorem Belongs.spared_modify {kind : Kind} {ref : Ref} (h : s.Belongs kind app ref)
    (hother : other ≠ app) (f : Reservoir E → Reservoir E) : s.Spared other (s.modify ref f) where
  size := Nat.le_of_eq (s.size_modify ref f).symm
  live _ := rfl
  reservoir hb := s.reservoir_modify_of_ne (h.ne hb hother) f
  appSettings := (s.sameSettings_modify ref f).appSettings other

theorem spared_removeOrdinary (hother : other ≠ app) : s.Spared other (s.removeOrdinary app) := by
  refine spared_of_pool_eq rfl (fun kind => ?_) rfl
  change (s.live.remove .ordinary app).get? kind other = _
  rw [Store.get?_remove, if_neg fun hcon => hother hcon.2]
  rfl

/-- **An errand for one application spares the others.** -/
theorem Errand.spared (h : s.Errand app s') (hs : s.Sound 0) (hother : other ≠ app) :
    s.Spared other s' := by
  have hsettings := h.sources.appSettings other
  cases h with
  | askEnabled =>
    have hsame := s.sameReservoirs_askEnabled app
    exact spared_of_pool_eq hsame.pool (fun kind => hsame.liveRef? kind other) hsettings
  | internAt version name =>
    have hsame := s.sameReservoirs_internAt version name
    exact spared_of_pool_eq hsame.pool (fun kind => hsame.liveRef? kind other) hsettings
  | getOrCreate kind =>
    rw [Service.getOrCreate]
    split
    · exact .refl other s
    · exact s.spared_install hother kind 0
  | swapOut kind =>
    have hinstalled := s.spared_install hother kind (s.liveTries kind app)
    cases hlive : s.liveRef? kind app with
    | none =>
      rw [swapOut_snd_of_none hlive]
      exact hinstalled
    | some ref =>
      rw [swapOut_snd_of_some hlive]
      have hb := (hs.live hlive).grows
        (s.grows_install (fun _ => False) kind app (s.liveTries kind app))
      exact hinstalled.trans (hb.spared_modify hother _)
  | modify hb _ _ => exact hb.spared_modify hother _
  | removeOrdinary => exact spared_removeOrdinary hother
  -- whose batches wait in which order makes no difference
  | backlog backlog => exact spared_of_pool_eq rfl (fun _ => rfl) hsettings

theorem Errands.spared (h : s.Errands app s') (hs : s.Sound 0) (hother : other ≠ app) :
    s.Spared other s' :=
  h.preserves hs (Spared.refl other) Spared.trans fun ht herrand => herrand.spared ht hother

/-- **Settings pushed for one application** are none for the others. -/
theorem spared_change (s : Service E) (hother : other ≠ app) (settings : Config.EventSettings) :
    s.Spared other (s.change (.app app settings)).1 := by
  have hdrops := (s.dropsOnly_change_app app settings).1
  refine spared_of_pool_eq hdrops.pool (fun kind => ?_) ?_
  · cases kind with
    | synthetic => exact hdrops.synthetic other
    | ordinary =>
      refine Option.ext fun ref => (hdrops.ordinary other ref).trans ?_
      exact and_iff_left fun hcon => hother hcon.1
  · rw [Service.appSettings, pushed_change_app, settings_change_app, maxSamplesStored_change_app,
      Dict.get?_insert, if_neg hother, Service.appSettings]

/-- **An application is not affected**: it has the same live reservoirs, with the same in them, and
its settings and what is decided about it are as before. -/
structure Unaffected (app : String) (s s' : Service E) : Prop where
  live : ∀ kind, s'.liveRef? kind app = s.liveRef? kind app
  reservoir : ∀ kind ref, s.liveRef? kind app = some ref → s'.reservoir ref = s.reservoir ref
  appSettings : s'.appSettings app = s.appSettings app
  askEnabled : (s'.askEnabled app).1 = (s.askEnabled app).1

/-- What is decided follows the settings. -/
theorem Spared.unaffected (h : s.Spared app s') (hs : s.Sound 0) (hcandid : s.IsCandid)
    (hcandid' : s'.IsCandid) : s.Unaffected app s' where
  live := h.live
  reservoir _ _ hlive := h.reservoir (hs.live hlive)
  appSettings := h.appSettings
  askEnabled := by
    rw [hcandid'.fst_askEnabled, hcandid.fst_askEnabled, isCollected, h.appSettings, isCollected]

end Service

/-! ### Runs -/

namespace Run

section Steps

variable [HasPriority E] {r r' : Run E Empty Unit} {app other : String}

omit [HasPriority E] in
/-- A step for an application is an errand for it, or the settings that are pushed for it. -/
theorem IsFor.start (h : r.IsFor (Step.IsFor app) app) (hs : r.service.Sound 0)
    {s : Step E Empty} (hstep : s.IsFor app) (hother : other ≠ app) :
    (r.start (.idle E) s).IsFor (Step.IsFor app) app ∧
      r.service.Spared other (r.start (.idle E) s).service := by
  rcases hstep.concerns with hconcerns | ⟨settings, rfl⟩
  · have hattends := r.attends_start hs hconcerns
    exact ⟨hattends.isFor h, hattends.errands.spared hs hother⟩
  · refine ⟨⟨?_, ?_⟩, ?_⟩
    · change ∀ g ∈ (r.absorb _).stack, _
      rw [absorb_stack]
      exact h.stack
    · change ∀ reply ∈ (r.absorb _).transport.planned, _
      rw [absorb_transport]
      exact h.planned
    · change Service.Spared other _ (r.absorb _).service
      rw [absorb_service]
      exact r.service.spared_change hother settings

/-- **One step of a run for an application** leaves it one, and spares the others. -/
theorem IsFor.step (h : r.IsFor (Step.IsFor app) app) (hproper : r.IsProper)
    (hstep : r.step (.idle E) = some r') (hother : other ≠ app) :
    r'.IsFor (Step.IsFor app) app ∧ r.service.Spared other r'.service := by
  obtain ⟨f, rest, hstack, hcases⟩ := hproper.step_cases hstep
  have hs : r.service.Sound 0 := hproper.sound.service.mono (Multiset.zero_le _)
  have hf : f.IsFor (Step.IsFor app) app := h.stack f (hstack ▸ List.mem_cons_self)
  have hpopped : IsFor (Step.IsFor app) app { r with stack := rest } :=
    ⟨fun g hg => h.stack g (hstack ▸ List.mem_cons_of_mem f hg), h.planned⟩
  rcases hcases with ⟨rfl, rfl⟩ | ⟨s, later, rfl, rfl⟩ | ⟨-, hattends⟩
  · exact ⟨hpopped, .refl other r.service⟩
  · have hpushed : IsFor (Step.IsFor app) app
        (push { r with stack := rest } (.steps later)) := by
      refine ⟨?_, h.planned⟩
      rintro g hg
      rcases List.mem_cons.1 hg with rfl | hg
      · exact fun t ht => hf t (List.mem_cons_of_mem s ht)
      · exact hpopped.stack g hg
    exact hpushed.start hs (hf s List.mem_cons_self) hother
  · exact ⟨(hattends hf).isFor hpopped, (hattends hf).errands.spared hs hother⟩

/-- **A run for an application spares the others** all the way. -/
theorem IsFor.advance (h : r.IsFor (Step.IsFor app) app) (hproper : r.IsProper)
    (hother : other ≠ app) (n : Nat) :
    r.service.Spared other (r.advance (.idle E) n).service := by
  induction n generalizing r with
  | zero => exact .refl other r.service
  | succ n ih =>
    cases hstep : r.step (.idle E) with
    | none =>
      rw [advance_succ_of_none hstep]
      exact .refl other r.service
    | some r' =>
      rw [advance_succ_of_some hstep]
      obtain ⟨hnext, hspared⟩ := h.step hproper hstep hother
      exact hspared.trans (ih hnext (hproper.step hstep))

/-- **Applications do not interfere.** A record, a drawn priority, a harvest or a configuration
change for an application, at any point of any run, ends and leaves every other application as it
was, whatever its sends come to; and whatever else is done for the same application inside its
callbacks and its sends. -/
theorem unaffected_perform {s : Service E} (hs : s.IsReached) (transport : Transport E Empty)
    (random : Random.Source) {step : Step E Empty} (hstep : step.IsFor app)
    (hsends : ∀ reply ∈ transport.planned, ∀ t ∈ reply.during, t.IsFor app)
    (hother : other ≠ app) :
    let r := (calling s transport random).perform (.idle E) step
    r.stack = [] ∧ s.Unaffected other r.service := by
  intro r
  have hproper := (isProper_calling hs transport random).push_steps [step]
  have hfor : IsFor (Step.IsFor app) app ((calling s transport random).push (.steps [step])) := by
    refine ⟨?_, hsends⟩
    rintro f hf
    rw [List.mem_singleton.1 hf]
    rintro t ht
    rw [List.mem_singleton.1 ht]
    exact hstep
  have hcandid : ((calling s transport random).push (.steps [step])).service.IsCandid :=
    hs.isCandid
  refine ⟨hproper.stack_complete, (hfor.advance hproper hother _).unaffected ?_ hcandid ?_⟩
  · exact hproper.sound.service.mono (Multiset.zero_le _)
  · exact isCandid_advance hcandid _

end Steps

open Simulation (Event) in
/-- A service in which two batches of the application `b` wait, with room for one from now on. -/
def neighbourService : Service Event :=
  let pushed := Step.recordWith "b" { transaction "b" 0.5 with isSynthetic := true } [] [] []
  ((fresh {} { habit := .always (some (.transient "down")) }
    [pushed, .harvest "b", pushed, .harvest "b", .record "b" (transaction "b" 0.25) [] [],
      .change (.reloaded { harvest := { synthetics := { maxPendingBatches := 1 } } })]
    (.ofSeed 0)).advance (.idle Event) 60).service

open Simulation (Event) in
/-- A harvest of the application `a` sends, requeues and drops batches of `b`. -/
theorem unaffected_neighbourService :
    let r := (calling neighbourService { habit := .always (some (.transient "down")) }
      (.ofSeed 0)).perform (.idle Event) (.harvest "a")
    (neighbourService.backlog.queue.length = 2 ∧ r.service.backlog.queue.length = 1 ∧
      (neighbourService.liveRef? .ordinary "b").isSome) ∧
      r.stack = [] ∧ neighbourService.Unaffected "b" r.service := by
  intro r
  have hreached : neighbourService.IsReached := ⟨_, _, _, _, 60, rfl⟩
  exact ⟨by decide +kernel, unaffected_perform hreached _ _ .harvest
    (fun _ hm => absurd hm List.not_mem_nil) (by decide)⟩

end Run

end Telemetry.Events
