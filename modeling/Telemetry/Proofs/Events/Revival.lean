import Telemetry.Proofs.Events.Conservation
import Telemetry.Proofs.Events.History

/-!
# Applications that should keep nothing

An application is *barred* once it is disabled or the service is shut down
(`Service.isBarred`): it should have no live ordinary reservoir from then on. Whatever bars an
application takes its reservoir away, but three things may bring one back, since they go by a
check that was made earlier:

| what | checked | goes on after |
|---|---|---|
| a record | when it began | its callbacks, and a harvest in one of them |
| the ordinary half of a harvest | for a shutdown, when the harvest began | the synthetic sends |
| a batch that is retried | when it was swapped out | its send |

What resuming a frame means for an application is its *fate* (`Frame.fate?`): it has a live
ordinary reservoir afterwards, or none, or all is as before. A barred application has a live
ordinary reservoir exactly if it has been revived so and not been dropped since
(`Run.isLive_advance_iff`).
-/

namespace Telemetry.Events

open Sampling (HasPriority Offer Reservoir)

variable {E P S : Type}

/-! ### Rules -/

namespace Service

/-- Whether the settings of an application let its events be collected. -/
def isCollected (s : Service E) (app : String) : Bool := (s.appSettings app).enabled

/-- Whether nothing ordinary of an application should be kept. -/
def isBarred (s : Service E) (app : String) : Bool := s.isShutDown || !s.isCollected app

/-- Whether an application has a live ordinary reservoir. -/
def isLive (s : Service E) (app : String) : Bool := (s.liveRef? .ordinary app).isSome

/-- **What was decided is what the settings say**, as long as the decision counts. -/
structure IsCandid (s : Service E) : Prop where
  le : ∀ {app generation decision}, s.memo.get? app = some (generation, decision) →
    generation ≤ s.generation
  decided : ∀ {app decision}, s.memo.get? app = some (s.generation, decision) →
    decision = s.isCollected app

/-- The rules are as before: who is collected, and whether the service is shut down. -/
structure SameRules (s s' : Service E) : Prop where
  enabled : s'.enabled = s.enabled
  isShutDown : s'.isShutDown = s.isShutDown
  isCollected : ∀ app, s'.isCollected app = s.isCollected app
  isCandid : s.IsCandid → s'.IsCandid

section Rules

variable {s s' s'' : Service E} {app : String}

theorem isBarred_eq_false : s.isBarred app = false ↔
    s.isShutDown = false ∧ s.isCollected app = true := by
  rw [isBarred, Bool.or_eq_false_iff, Bool.not_eq_false']

theorem SameRules.refl (s : Service E) : s.SameRules s := ⟨rfl, rfl, fun _ => rfl, id⟩

theorem SameRules.trans (h : s.SameRules s') (h' : s'.SameRules s'') : s.SameRules s'' :=
  ⟨h'.enabled.trans h.enabled, h'.isShutDown.trans h.isShutDown,
    fun app => (h'.isCollected app).trans (h.isCollected app),
    fun hc => h'.isCandid (h.isCandid hc)⟩

theorem SameRules.isActive (h : s.SameRules s') : s'.isActive = s.isActive := by
  rw [Service.isActive, Service.isActive, h.enabled, h.isShutDown]

theorem SameRules.isBarred (h : s.SameRules s') (app : String) :
    s'.isBarred app = s.isBarred app := by
  rw [Service.isBarred, Service.isBarred, h.isShutDown, h.isCollected]

theorem IsCandid.same (h : s.IsCandid) (hmemo : s'.memo = s.memo)
    (hgeneration : s'.generation = s.generation)
    (hcollected : ∀ app, s'.isCollected app = s.isCollected app) : s'.IsCandid := by
  refine ⟨fun hget => ?_, fun {app decision} hget => ?_⟩
  · rw [hmemo] at hget
    rw [hgeneration]
    exact h.le hget
  · rw [hmemo, hgeneration] at hget
    rw [hcollected]
    exact h.decided hget

theorem SameSettings.sameRules (h : s.SameSettings s') : s.SameRules s' := by
  have hcollected : ∀ app, s'.isCollected app = s.isCollected app := fun app =>
    congrArg (·.enabled) (h.appSettings app)
  exact ⟨h.enabled, h.isShutDown, hcollected, fun hc => hc.same h.memo h.generation hcollected⟩

/-- An application is collected if the settings say so. -/
theorem IsCandid.fst_askEnabled (h : s.IsCandid) (app : String) :
    (s.askEnabled app).1 = s.isCollected app := by
  rw [askEnabled]
  split
  next decision hdecision =>
    rw [remembered?] at hdecision
    split at hdecision
    next generation decision' hget =>
      split at hdecision
      next hcurrent =>
        obtain rfl := Option.some.inj hdecision
        exact h.decided (hcurrent ▸ hget)
      next => exact absurd hdecision (Option.some_ne_none _).symm
    next => exact absurd hdecision (Option.some_ne_none _).symm
  next => rfl

theorem IsCandid.memoize (h : s.IsCandid) (app : String) :
    (s.memoize app s.generation (s.isCollected app)).IsCandid := by
  refine ⟨fun {app' generation decision} hget => ?_, fun {app' decision} hget => ?_⟩
  all_goals
    rw [Service.memoize, Dict.get?_insert] at hget
    split at hget
  · obtain ⟨rfl, -⟩ := Prod.mk.inj (Option.some.inj hget)
    exact Nat.le_refl _
  · exact h.le hget
  next heq =>
    obtain ⟨-, rfl⟩ := Prod.mk.inj (Option.some.inj hget)
    rw [heq]
    rfl
  next => exact h.decided hget

theorem sameRules_askEnabled (s : Service E) (app : String) :
    s.SameRules (s.askEnabled app).2 := by
  rw [askEnabled]
  split
  · exact .refl s
  · exact ⟨rfl, rfl, fun _ => rfl, fun h => h.memoize app⟩

/-- The default capacity does not tell who is collected. -/
theorem isCollected_setCapacity (s : Service E) (n : Nat) (app : String) :
    (s.setCapacity n).1.isCollected app = s.isCollected app := by
  rw [setCapacity]
  split
  · rfl
  · rw [isCollected, isCollected, appSettings, appSettings]
    cases s.pushed.get? app with
    | some settings => rfl
    | none => cases s.settings.apps.get? app <;> rfl

theorem sameRules_setCapacity (s : Service E) (n : Nat) : s.SameRules (s.setCapacity n).1 := by
  have hcollected := s.isCollected_setCapacity n
  rw [setCapacity] at hcollected ⊢
  split at hcollected
  next heq =>
    rw [if_pos heq]
    exact .refl s
  next hne =>
    rw [if_neg hne]
    exact ⟨rfl, rfl, hcollected, fun h => h.same rfl rfl hcollected⟩

end Rules

/-! ### What an operation leaves -/

/-- **What becomes of an application** while the rules stay as they are: whether it has a live
ordinary reservoir afterwards is its fate, and if it has none, all is as before. -/
structure Leaves (app : String) (fate : Option Bool) (s s' : Service E) : Prop where
  rules : s.SameRules s'
  isLive : s'.isLive app = fate.getD (s.isLive app)

section Leaves

variable {s s' s'' : Service E} {app app' : String} {fate fate' : Option Bool}

/-- A later fate overrides an earlier one. -/
theorem Leaves.trans (h : s.Leaves app fate s') (h' : s'.Leaves app fate' s'') :
    s.Leaves app (fate'.or fate) s'' := by
  refine ⟨h.rules.trans h'.rules, ?_⟩
  rw [h'.isLive, h.isLive]
  cases fate' <;> rfl

theorem Leaves.andThen (h : s.Leaves app none s') (h' : s'.Leaves app fate s'') :
    s.Leaves app fate s'' := by
  have htrans := h.trans h'
  rwa [Option.or_none] at htrans

theorem Leaves.followedBy (h : s.Leaves app fate s') (h' : s'.Leaves app none s'') :
    s.Leaves app fate s'' := h.trans h'

theorem leaves_of_live_eq (hrules : s.SameRules s') (hlive : s'.live = s.live) (app : String) :
    s.Leaves app none s' := by
  refine ⟨hrules, ?_⟩
  rw [Service.isLive, liveRef?, hlive]
  rfl

theorem Leaves.refl (s : Service E) (app : String) : s.Leaves app none s :=
  leaves_of_live_eq (.refl s) rfl app

theorem leaves_askEnabled (s : Service E) (app app' : String) :
    s.Leaves app none (s.askEnabled app').2 :=
  leaves_of_live_eq (s.sameRules_askEnabled app') (s.sameReservoirs_askEnabled app').live app

theorem leaves_setCapacity (s : Service E) (n : Nat) (app : String) :
    s.Leaves app none (s.setCapacity n).1 :=
  leaves_of_live_eq (s.sameRules_setCapacity n) (s.sameReservoirs_setCapacity n).live app

theorem leaves_internAt (s : Service E) (version : Nat) (name app : String) :
    s.Leaves app none (s.internAt version name) :=
  leaves_of_live_eq (s.sameSettings_internAt version name).sameRules
    (s.sameReservoirs_internAt version name).live app

theorem leaves_modify (s : Service E) (ref : Ref) (f : Reservoir E → Reservoir E) (app : String) :
    s.Leaves app none (s.modify ref f) :=
  leaves_of_live_eq (s.sameSettings_modify ref f).sameRules rfl app

theorem leaves_mergeInto (s : Service E) (target source : Ref) (app : String) :
    s.Leaves app none (s.mergeInto target source) := by
  refine leaves_of_live_eq (s.sameSettings_mergeInto target source).sameRules ?_ app
  rw [mergeInto]
  split <;> rfl

theorem leaves_backlog (s : Service E) (backlog : Backlog Ref) (app : String) :
    s.Leaves app none { s with backlog := backlog } := by
  have hrules : s.SameRules { s with backlog := backlog } :=
    ⟨rfl, rfl, fun _ => rfl, fun h => h.same rfl rfl fun _ => rfl⟩
  refine leaves_of_live_eq hrules ?_ app
  rfl

/-- A new reservoir is a live one of its own kind and application. -/
theorem leaves_install (s : Service E) (kind : Kind) (app app' : String) (decidedLast : Nat) :
    s.Leaves app (if kind = .ordinary ∧ app' = app then some true else none)
      (s.install kind app' decidedLast).2 := by
  refine ⟨(s.sameSettings_install kind app' decidedLast).sameRules, ?_⟩
  rw [Service.isLive, liveRef?_install]
  by_cases h : kind = .ordinary ∧ app' = app
  · obtain ⟨rfl, rfl⟩ := h
    rw [if_pos ⟨rfl, rfl⟩, if_pos ⟨rfl, rfl⟩]
    rfl
  · rw [if_neg h, if_neg fun hcon => h ⟨hcon.1.symm, hcon.2.symm⟩]
    rfl

theorem leaves_getOrCreate (s : Service E) (kind : Kind) (app app' : String) :
    s.Leaves app (if kind = .ordinary ∧ app' = app then some true else none)
      (s.getOrCreate kind app').2 := by
  cases hlive : s.liveRef? kind app' with
  | none =>
    rw [getOrCreate_of_none hlive]
    exact s.leaves_install kind app app' 0
  | some ref =>
    rw [getOrCreate_of_some hlive]
    refine ⟨.refl s, ?_⟩
    by_cases h : kind = .ordinary ∧ app' = app
    · obtain ⟨rfl, rfl⟩ := h
      rw [Service.isLive, hlive, if_pos ⟨rfl, rfl⟩]
      rfl
    · rw [if_neg h]
      rfl

theorem leaves_swapOut (s : Service E) (kind : Kind) (app app' : String) :
    s.Leaves app (if kind = .ordinary ∧ app' = app then some true else none)
      (s.swapOut kind app').2 := by
  have hinstalled := s.leaves_install kind app app' (s.liveTries kind app')
  cases hlive : s.liveRef? kind app' with
  | none =>
    rw [swapOut_snd_of_none hlive]
    exact hinstalled
  | some ref =>
    rw [swapOut_snd_of_some hlive]
    exact hinstalled.followedBy (leaves_modify _ ref _ app)

theorem leaves_removeOrdinary (s : Service E) (app app' : String) :
    s.Leaves app (if app' = app then some false else none) (s.removeOrdinary app') := by
  refine ⟨(s.sameSettings_removeOrdinary app').sameRules, ?_⟩
  rw [Service.isLive]
  change ((s.live.remove .ordinary app').get? .ordinary app).isSome = _
  rw [Store.get?_remove]
  by_cases h : app' = app
  · rw [if_pos h, if_pos ⟨rfl, h.symm⟩]
    rfl
  · rw [if_neg h, if_neg fun hcon => h hcon.2.symm]
    rfl

theorem leaves_clearOrdinary (s : Service E) (app : String) :
    s.Leaves app (some false) s.clearOrdinary := by
  refine ⟨⟨rfl, rfl, fun _ => rfl, fun h => h.same rfl rfl fun _ => rfl⟩, ?_⟩
  rw [Service.isLive]
  change ((s.live.clear .ordinary).get? .ordinary app).isSome = _
  rw [Store.get?_clear]
  rfl

end Leaves

/-! ### What a change leaves -/

/-- **What becomes of an application** when the rules may change as well: it is barred only if it
was before, or is left without a live ordinary reservoir. -/
structure Turns (app : String) (fate : Option Bool) (s s' : Service E) : Prop where
  isCandid : s.IsCandid → s'.IsCandid
  isLive : s'.isLive app = fate.getD (s.isLive app)
  isBarred : fate ≠ some false → s'.isBarred app → s.isBarred app

theorem Leaves.turns {s s' : Service E} {app : String} {fate : Option Bool}
    (h : s.Leaves app fate s') : s.Turns app fate s' where
  isCandid := h.rules.isCandid
  isLive := h.isLive
  isBarred _ hbarred := by rwa [h.rules.isBarred] at hbarred

/-- Whether a change says something about an application. -/
def concerns (app : String) : ConfigChange → Bool
  | .app app' _ => app' = app
  | .reloaded _ => true

/-- What a change means for an application: one that ends up disabled loses its live ordinary
reservoir. -/
def changeFate? (s : Service E) (app : String) (c : ConfigChange) : Option Bool :=
  if concerns app c ∧ (s.change c).1.isCollected app = false then some false else none

section Change

variable {s s' : Service E} {app app' : String}

/-- Decisions of an earlier generation do not count. -/
theorem IsCandid.renew (h : s.IsCandid) (hgeneration : s'.generation = s.generation + 1)
    (hmemo : ∀ app entry, s'.memo.get? app = some entry → s.memo.get? app = some entry) :
    s'.IsCandid := by
  refine ⟨fun hget => ?_, fun hget => ?_⟩
  · rw [hgeneration]
    exact Nat.le_succ_of_le (h.le (hmemo _ _ hget))
  · rw [hgeneration] at hget
    exact absurd (h.le (hmemo _ _ hget)) (Nat.not_succ_le_self _)

theorem isCandid_change (h : s.IsCandid) (c : ConfigChange) : (s.change c).1.IsCandid := by
  cases c with
  | app app settings =>
    have herase : ∀ app' entry, (s.memo.erase app).get? app' = some entry →
        s.memo.get? app' = some entry := by
      intro app' entry hget
      rw [Dict.get?_erase] at hget
      split at hget
      · exact absurd hget.symm (Option.some_ne_none _)
      · exact hget
    obtain ⟨_ | _, capacity, target⟩ := settings <;> exact h.renew rfl herase
  | reloaded settings =>
    refine h.renew rfl fun app entry hget => ?_
    exact absurd hget.symm (Option.some_ne_none _)

/-- Settings that are pushed count for their application. -/
theorem isCollected_change_app (s : Service E) (app app' : String)
    (settings : Config.EventSettings) : (s.change (.app app' settings)).1.isCollected app =
      if app = app' then settings.enabled else s.isCollected app := by
  have hpushed : ∀ t : Service E, t.pushed = s.pushed.insert app' settings →
      t.settings = s.settings → t.maxSamplesStored = s.maxSamplesStored →
      t.isCollected app = if app = app' then settings.enabled else s.isCollected app := by
    intro t hpushed hsettings hcapacity
    rw [isCollected, isCollected, appSettings, appSettings, hpushed, hsettings, hcapacity,
      Dict.get?_insert]
    by_cases happ : app = app'
    · rw [if_pos happ, if_pos happ]
    · rw [if_neg happ, if_neg happ]
  obtain ⟨_ | _, capacity, target⟩ := settings <;> exact hpushed _ rfl rfl rfl

theorem isShutDown_change (s : Service E) (c : ConfigChange) :
    (s.change c).1.isShutDown = s.isShutDown := by
  rcases c with ⟨app, ⟨_ | _, capacity, target⟩⟩ | settings <;> rfl

/-- **A change** takes the live ordinary reservoirs of those away that it disables. -/
theorem isLive_change (s : Service E) (c : ConfigChange) (app : String) :
    (s.change c).1.isLive app = (s.changeFate? app c).getD (s.isLive app) := by
  cases c with
  | app app' settings =>
    rw [changeFate?, isCollected_change_app]
    obtain ⟨_ | _, capacity, target⟩ := settings
    · -- the application that is disabled loses its reservoir, others are left alone
      have hremoved := (s.leaves_removeOrdinary app app').isLive
      change (s.removeOrdinary app').isLive app = _
      rw [hremoved]
      by_cases happ : app' = app
      · subst happ
        simp [concerns]
      · simp [concerns, happ]
    · change s.isLive app = _
      by_cases happ : app = app'
      · simp [concerns, happ]
      · simp [concerns, Ne.symm happ]
  | reloaded settings =>
    rw [Service.isLive, liveRef?]
    change ((s.change (.reloaded settings)).1.live.ordinary.get? app).isSome = _
    rw [ordinary_reloaded, Dict.get?_filter, changeFate?]
    cases hcollected : (s.change (.reloaded settings)).1.isCollected app with
    | true =>
      have henabled : ((s.change (.reloaded settings)).1.appSettings app).enabled = true :=
        hcollected
      rw [henabled]
      change ((s.live.get? .ordinary app).filter fun _ => true).isSome = _
      cases hlive : s.live.get? .ordinary app <;> simp [Service.isLive, liveRef?, hlive]
    | false =>
      have hdisabled : ((s.change (.reloaded settings)).1.appSettings app).enabled = false :=
        hcollected
      rw [hdisabled]
      cases s.live.ordinary.get? app <;> simp [concerns]

theorem turns_change (s : Service E) (c : ConfigChange) (app : String) :
    s.Turns app (s.changeFate? app c) (s.change c).1 := by
  refine ⟨fun h => isCandid_change h c, s.isLive_change c app, fun hfate hbarred => ?_⟩
  rw [isBarred, isShutDown_change] at hbarred
  rw [isBarred]
  -- no change shuts the service down, so it is a matter of who is collected
  rcases Bool.or_eq_true_iff.1 hbarred with hdown | hcollected
  · rw [hdown, Bool.true_or]
  · rw [Bool.not_eq_true'] at hcollected
    cases c with
    | app app' settings =>
      rw [changeFate?] at hfate
      have hother : app ≠ app' := by
        rintro rfl
        exact hfate (if_pos ⟨by simp [concerns], hcollected⟩)
      rw [isCollected_change_app, if_neg hother] at hcollected
      rw [hcollected, Bool.not_false, Bool.or_true]
    | reloaded settings => exact absurd (if_pos ⟨rfl, hcollected⟩) hfate

theorem turns_shutDown (s : Service E) (app : String) :
    s.Turns app (some false) s.shutDown.1 where
  isCandid h := h.same rfl rfl fun _ => rfl
  isLive := (s.leaves_clearOrdinary app).isLive
  isBarred hfate := absurd rfl hfate

end Change

/-- What a record call means for an application: a disabled one loses its live ordinary
reservoir, unless the service does nothing any more. -/
def recordFate? (s : Service E) (app app' : String) : Option Bool :=
  if app' = app ∧ s.isActive ∧ s.isCollected app = false then some false else none

theorem SameRules.recordFate? {s s' : Service E} (h : s.SameRules s') (app app' : String) :
    s'.recordFate? app app' = s.recordFate? app app' := by
  rw [Service.recordFate?, Service.recordFate?, h.isActive, h.isCollected]

end Service

/-! ### The fate of an application -/

/-- What a step that starts means for an application. -/
def Step.fate? (s : Service E) (app : String) : Step E P → Option Bool
  | .recordWith app' _ _ _ _ => s.recordFate? app app'
  | .recordDrawn app' _ => (s.recordFate? app app').or (if app' = app then some true else none)
  | .drawPriority app' => if app' = app then some true else none
  | .getOrCreate app' => if app' = app then some true else none
  | .change c => s.changeFate? app c
  | .clear => some false
  | .shutDown => some false
  | _ => none

/-- **What a frame means for an application** when it is resumed: there is a live ordinary
reservoir afterwards, or none, or else all is as before. -/
def Frame.fate? (s : Service E) (app : String) : Frame E P → Option Bool
  | .steps (step :: _) => step.fate? s app
  | .asked app' job => if app' = app ∧ job.work.isSynthetic = false then some true else none
  | .compete kind app' _ => if kind = .ordinary ∧ app' = app then some true else none
  | .ordinary app' => if app' = app then some (s.isCollected app) else none
  | .settleOrdinary app' flight =>
    if app' = app ∧ isKept s.settings.harvest.unexpectedErrors flight.outcome then some true
    else none
  | _ => none

namespace Run

/-- What the next step of a run means for an application. -/
def fate? (r : Run E P S) (app : String) : Option Bool :=
  r.stack.head?.bind (Frame.fate? r.service app)

section Functions

variable {r : Run E P S} {app app' : String}

/-! ### Recording -/

section Record

variable [HasPriority E]

theorem leaves_offerTo (r : Run E P S) (kind : Kind) (app app' : String) (job : Job E P)
    (ref : Ref) : r.service.Leaves app none (r.offerTo kind app' job ref).service := by
  have hoffered : r.service.Leaves app none
      (r.service.offer ref (HasPriority.priority job.work.event) job.work.event).2 :=
    r.service.leaves_modify ref _ app
  rw [offerTo_eq]
  generalize r.service.offer ref (HasPriority.priority job.work.event) job.work.event = result
    at hoffered ⊢
  obtain ⟨decision, s⟩ := result
  cases decision <;> cases kind
  case accepted.synthetic =>
    change Service.Leaves app none _ (Run.note _ _).service
    rw [note_service]
    exact hoffered
  all_goals exact hoffered

theorem leaves_submit (r : Run E P S) (kind : Kind) (app app' : String) (job : Job E P)
    (ref : Ref) : r.service.Leaves app none (r.submit kind app' job ref).service := by
  rw [submit]
  split
  · exact .refl _ app
  · exact r.leaves_offerTo kind app app' job ref

/-- A round for the live reservoir makes one if there is none. -/
theorem leaves_compete (r : Run E P S) (kind : Kind) (app app' : String) (job : Job E P) :
    r.service.Leaves app (if kind = .ordinary ∧ app' = app then some true else none)
      (r.compete kind app' job).service := by
  have hgot := r.service.leaves_getOrCreate kind app app'
  rw [compete]
  generalize (if kind = .ordinary ∧ app' = app then some true else none) = fate at hgot ⊢
  generalize r.service.getOrCreate kind app' = result at hgot ⊢
  obtain ⟨ref, s⟩ := result
  have hsubmitted := hgot.followedBy ((r.withService s).leaves_submit kind app app' job ref)
  have hcounted := hgot.followedBy (s.leaves_modify ref (fun r => r.countTry.2) app)
  cases kind with
  | synthetic => exact hsubmitted
  | ordinary =>
    simp only
    split
    · split
      · exact hgot
      · exact hsubmitted
    · split
      · exact hcounted
      · exact hcounted

theorem leaves_afterBuild (r : Run E P S) (app app' : String) (job : Job E P)
    (namesVersion : Nat) (goal : Option Ref) :
    r.service.Leaves app none (r.afterBuild app' job namesVersion goal).service := by
  have hshared := r.service.leaves_internAt namesVersion job.work.name app
  have hsubmitted := (r.withService (r.service.internAt namesVersion job.work.name)).leaves_submit
    .ordinary app app' { job with onBuild := none }
  have hcompeted := (r.withService (r.service.internAt namesVersion job.work.name)).leaves_compete
    .synthetic app app' { job with onBuild := none }
  cases goal with
  | some ref => exact hshared.followedBy (hsubmitted ref)
  | none => exact hshared.followedBy hcompeted

theorem leaves_afterAsk (r : Run E P S) (app app' : String) (job : Job E P) :
    r.service.Leaves app (if app' = app ∧ job.work.isSynthetic = false then some true else none)
      (r.afterAsk app' job).service := by
  rw [afterAsk]
  cases hkind : job.work.isSynthetic with
  | true =>
    rw [if_neg fun hcon => Bool.false_ne_true hcon.2.symm]
    exact .refl _ app
  | false =>
    have hcompeted := r.leaves_compete .ordinary app app' job
    simp only [true_and] at hcompeted
    simp only [and_true]
    exact hcompeted

omit [HasPriority E] in
/-- **A record call** takes the reservoir of a disabled application away, and makes none yet. -/
theorem leaves_record (hcandid : r.service.IsCandid) (app app' : String) (work : Work E)
    (onAsk onBuild : List (Step E P)) (onPriority : List (List (Step E P))) :
    r.service.Leaves app (r.service.recordFate? app app')
      (r.record app' work onAsk onBuild onPriority).service := by
  have hasked := r.service.leaves_askEnabled app app'
  have hdecided := hcandid.fst_askEnabled app'
  rw [record, Service.recordFate?]
  cases hactive : r.service.isActive with
  | false =>
    rw [if_neg fun hcon => Bool.false_ne_true hcon.2.1]
    exact .refl _ app
  | true =>
    generalize r.service.askEnabled app' = result at hasked hdecided ⊢
    obtain ⟨enabled, s⟩ := result
    obtain rfl : enabled = _ := hdecided
    simp only [Bool.not_true, Bool.false_eq_true, if_false, true_and]
    cases hcollected : r.service.isCollected app' with
    | true =>
      rw [if_neg ?_]
      · exact hasked
      · rintro ⟨rfl, hdisabled⟩
        exact Bool.false_ne_true (hdisabled.symm.trans hcollected)
    | false =>
      have hremoved := hasked.andThen (s.leaves_removeOrdinary app app')
      by_cases happ : app' = app
      · subst happ
        rw [if_pos ⟨rfl, hcollected⟩]
        rw [if_pos rfl] at hremoved
        exact hremoved
      · rw [if_neg fun hcon => happ hcon.1]
        rw [if_neg happ] at hremoved
        exact hremoved

end Record

theorem leaves_drawPriority (r : Run E P S) (app app' : String) :
    r.service.Leaves app (if app' = app then some true else none)
      (r.drawPriority app').service := by
  have hgot := r.service.leaves_getOrCreate .ordinary app app'
  simp only [true_and] at hgot
  exact hgot.followedBy (Service.leaves_modify _ _ (fun res => (res.decide r.random.unit.1).2) app)

/-! ### Harvesting -/

@[simp] theorem send_service (r : Run E P S) (kind : Kind) (ref : Ref)
    (settle : Flight E → Frame E P) : (r.send kind ref settle).service = r.service :=
  note_service _ _

theorem leaves_enqueue (r : Run E P S) (app app' : String) (ref : Ref) :
    r.service.Leaves app none (r.enqueue app' ref).service := by
  rw [enqueue]
  split
  · exact r.service.leaves_backlog _ app
  · rw [note_service, log, note_service]
    exact .refl _ app

/-- The first half of a harvest is of no concern to ordinary events. -/
theorem leaves_harvest (r : Run E P S) (app app' : String) :
    r.service.Leaves app none (r.harvest app').service := by
  have hswapped := r.service.leaves_swapOut .synthetic app app'
  rw [if_neg fun hcon => (by decide : Kind.synthetic ≠ .ordinary) hcon.1] at hswapped
  have hqueued := leaves_enqueue
    ((r.withAnswer .none).withService (r.service.swapOut .synthetic app').2) app app'
  rw [harvest]
  simp only
  split
  · exact .refl _ app
  · split
    · split
      · exact hswapped
      · exact hswapped.followedBy (hqueued _)
    · exact hswapped

theorem leaves_endDrain (r : Run E P S) (app app' : String) :
    r.service.Leaves app none (r.endDrain app').service := by
  change r.service.Leaves app none (Run.note _ _).service
  rw [note_service]
  exact .refl _ app

theorem leaves_drain (r : Run E P S) (app app' : String) (budget : Nat) :
    r.service.Leaves app none (r.drain app' budget).service := by
  unfold drain
  split
  · rw [send_service]
    exact r.service.leaves_backlog _ app
  · exact r.leaves_endDrain app app'

theorem leaves_requeue (r : Run E P S) (app : String) (ref : Ref) :
    r.service.Leaves app none (r.requeue ref).service := by
  have hmoved := r.service.leaves_backlog (r.service.backlog.requeue ref).2 app
  rw [requeue]
  generalize r.service.backlog.requeue ref = result at hmoved ⊢
  obtain ⟨dropped, backlog⟩ := result
  cases dropped with
  | none => exact hmoved
  | some ref' =>
    simp only [log, note_service]
    exact hmoved

theorem leaves_settleSynthetic (r : Run E P S) (app app' : String) (budget : Nat)
    (flight : Flight E) :
    r.service.Leaves app none (r.settleSynthetic app' budget flight).service := by
  have hnoted : ∀ r' : Run E P S, r'.service = r.service →
      r.service.Leaves app none r'.service := fun r' h => by
    rw [h]
    exact .refl _ app
  rw [settleSynthetic]
  cases flight.outcome with
  | none =>
    refine hnoted _ ?_
    change (Run.note _ _).service = _
    rw [note_service, note_service]
  | some error =>
    simp only
    split
    · refine Service.Leaves.followedBy (hnoted _ ?_) ((leaves_requeue _ app _).followedBy
        (leaves_endDrain _ app app'))
      rw [note_service, logUnsent_service, note_service]
    · refine Service.Leaves.followedBy (hnoted _ ?_) (leaves_endDrain _ app app')
      rw [note_service, logUnsent_service, note_service]

/-- **The second half of a harvest** makes a live reservoir of an application that is
collected, whether or not the service has been shut down meanwhile. -/
theorem leaves_harvestOrdinary (hcandid : r.service.IsCandid) (app app' : String) :
    r.service.Leaves app (if app' = app then some (r.service.isCollected app) else none)
      (r.harvestOrdinary app').service := by
  have hasked := r.service.leaves_askEnabled app app'
  have hdecided := hcandid.fst_askEnabled app'
  rw [harvestOrdinary]
  generalize r.service.askEnabled app' = result at hasked hdecided ⊢
  obtain ⟨enabled, s⟩ := result
  obtain rfl : enabled = _ := hdecided
  cases hcollected : r.service.isCollected app' with
  | false =>
    have hremoved := hasked.andThen (s.leaves_removeOrdinary app app')
    by_cases happ : app' = app
    · subst happ
      rw [if_pos rfl] at hremoved ⊢
      rw [hcollected]
      exact hremoved
    · rw [if_neg happ] at hremoved ⊢
      exact hremoved
  | true =>
    have hswapped := hasked.andThen (s.leaves_swapOut .ordinary app app')
    have hfate : (if Kind.ordinary = .ordinary ∧ app' = app then some true else none) =
        (if app' = app then some (r.service.isCollected app) else none) := by
      by_cases happ : app' = app
      · subst happ
        rw [if_pos ⟨rfl, rfl⟩, if_pos rfl, hcollected]
      · rw [if_neg fun hcon => happ hcon.2, if_neg happ]
    rw [hfate] at hswapped
    generalize (if app' = app then some (r.service.isCollected app) else none) = fate
      at hswapped ⊢
    simp only [Bool.not_true, Bool.false_eq_true, if_false]
    generalize s.swapOut .ordinary app' = result at hswapped ⊢
    obtain ⟨swapped, s'⟩ := result
    split
    · exact hswapped
    · split
      · exact hswapped
      · rw [send_service, note_service]
        exact hswapped

/-- **A batch that is retried** makes a live reservoir to go into, whatever has become of its
application during the send. -/
theorem leaves_settleOrdinary (r : Run E P S) (app app' : String) (flight : Flight E) :
    r.service.Leaves app
      (if app' = app ∧ isKept r.service.settings.harvest.unexpectedErrors flight.outcome then
        some true else none)
      (r.settleOrdinary app' flight).service := by
  rw [settleOrdinary]
  cases hout : flight.outcome with
  | none =>
    rw [if_neg fun hcon => Bool.false_ne_true hcon.2]
    simp only [log, note_service]
    exact .refl _ app
  | some error =>
    have hkept : isKept r.service.settings.harvest.unexpectedErrors (some error) =
        isRetried error r.service.settings.harvest.unexpectedErrors := rfl
    simp only [note_service, logUnsent_service, hkept]
    cases hretried : isRetried error r.service.settings.harvest.unexpectedErrors with
    | true =>
      have hgot := r.service.leaves_getOrCreate .ordinary app app'
      simp only [true_and] at hgot
      simp only [and_true, if_true, note_service]
      exact hgot.followedBy (Service.leaves_mergeInto _ _ _ app)
    | false =>
      simp only [Bool.false_eq_true, and_false, if_false, note_service]
      exact r.service.leaves_modify _ _ app

end Functions

/-! ### Steps -/

section Steps

theorem turns_start {r : Run E Empty Unit} (hcandid : r.service.IsCandid) (app : String)
    (s : Step E Empty) :
    r.service.Turns app (s.fate? r.service app) (r.start (.idle E) s).service := by
  cases s with
  | recordWith app' work onAsk onBuild onPriority =>
    exact (leaves_record hcandid app app' work onAsk onBuild onPriority).turns
  | recordDrawn app' make =>
    -- drawing makes a reservoir, which the record takes away again if the application is disabled
    have hdrawn := r.leaves_drawPriority app app'
    have hrecorded := leaves_record (r := { r.drawPriority app' with numbered := r.numbered + 1 })
      (hdrawn.rules.isCandid hcandid) app app'
      (make (r.numbered + 1) (r.drawPriority app').lastDrawn) [] [] []
    have hboth := hdrawn.trans hrecorded
    rw [hdrawn.rules.recordFate? app app'] at hboth
    exact hboth.turns
  | drawPriority app' => exact (r.leaves_drawPriority app app').turns
  | harvest app' => exact (r.leaves_harvest app app').turns
  | change c =>
    have hchanged := r.service.turns_change c app
    rw [← r.absorb_service (r.service.change c)] at hchanged
    exact hchanged
  | setCapacity n =>
    have hset := (r.service.leaves_setCapacity n app).turns
    rw [← r.absorb_service (r.service.setCapacity n)] at hset
    exact hset
  | getOrCreate app' =>
    have hgot := r.service.leaves_getOrCreate .ordinary app app'
    simp only [true_and] at hgot
    exact hgot.turns
  | clear => exact (r.service.leaves_clearOrdinary app).turns
  | shutDown =>
    have hdown := r.service.turns_shutDown app
    rw [← r.absorb_service r.service.shutDown] at hdown
    exact hdown
  | askEnabled app' => exact (r.service.leaves_askEnabled app app').turns
  | background steps => exact (Service.Leaves.refl r.service app).turns
  | probe p => exact p.elim

variable [HasPriority E]

theorem turns_resume {r : Run E Empty Unit} (hcandid : r.service.IsCandid) (app : String)
    (f : Frame E Empty) :
    r.service.Turns app (f.fate? r.service app) (r.resume (.idle E) f).service := by
  cases f with
  | steps steps =>
    cases steps with
    | nil => exact (Service.Leaves.refl r.service app).turns
    | cons s rest => exact turns_start (r := r.push (.steps rest)) hcandid app s
  | asked app' job => exact (r.leaves_afterAsk app app' job).turns
  | compete kind app' job => exact (r.leaves_compete kind app app' job).turns
  | built app' job namesVersion goal =>
    exact (r.leaves_afterBuild app app' job namesVersion goal).turns
  | offer kind app' job ref => exact (r.leaves_offerTo kind app app' job ref).turns
  | drain app' budget => exact (r.leaves_drain app app' budget).turns
  | settleSynthetic app' budget flight =>
    exact (r.leaves_settleSynthetic app app' budget flight).turns
  | ordinary app' => exact (leaves_harvestOrdinary hcandid app app').turns
  | settleOrdinary app' flight => exact (r.leaves_settleOrdinary app app' flight).turns
  | foreground wasBackground => exact (Service.Leaves.refl r.service app).turns

/-- **Each step** gives an application its fate, and bars none that it leaves as it was. -/
theorem turns_advance {r : Run E Empty Unit} (hcandid : r.service.IsCandid) (app : String) :
    r.service.Turns app (r.fate? app) (r.advance (.idle E) 1).service := by
  cases hstack : r.stack with
  | nil =>
    have hstep : r.step (.idle E) = none := by rw [step, hstack]
    rw [advance_succ_of_none hstep, fate?, hstack]
    exact (Service.Leaves.refl r.service app).turns
  | cons f rest =>
    have hstep : r.step (.idle E) = some (resume (.idle E) { r with stack := rest } f) := by
      rw [step, hstack]
    rw [advance_succ_of_some hstep, fate?, hstack]
    exact turns_resume (r := { r with stack := rest }) hcandid app f

theorem isCandid_advance {r : Run E Empty Unit} (hcandid : r.service.IsCandid) (n : Nat) :
    (r.advance (.idle E) n).service.IsCandid := by
  induction n with
  | zero => exact hcandid
  | succ n ih =>
    rw [advance_add]
    exact (turns_advance ih "").isCandid ih

/-- The next step brings a live ordinary reservoir to an application that is barred. -/
structure Revives (app : String) (r : Run E P S) : Prop where
  isBarred : r.service.isBarred app
  fate : r.fate? app = some true

/-- Something has happened after which `q` held ever since: it happened just now, or it had before
and `q` holds now as well. -/
theorem exists_since_succ {p q : Nat → Prop} {n : Nat} :
    (∃ m < n + 1, p m ∧ ∀ k, m < k → k < n + 1 → q k) ↔
      p n ∨ ((∃ m < n, p m ∧ ∀ k, m < k → k < n → q k) ∧ q n) := by
  constructor
  · rintro ⟨m, hm, hp, hq⟩
    rcases Nat.lt_succ_iff_lt_or_eq.1 hm with hlt | rfl
    · exact .inr ⟨⟨m, hlt, hp, fun k hk hkn => hq k hk (Nat.lt_succ_of_lt hkn)⟩,
        hq n hlt (Nat.lt_succ_self n)⟩
    · exact .inl hp
  · rintro (hp | ⟨⟨m, hm, hp, hq⟩, hn⟩)
    · refine ⟨n, Nat.lt_succ_self n, hp, fun k hk hkn => ?_⟩
      exact absurd hk (Nat.not_lt.2 (Nat.le_of_lt_succ hkn))
    · refine ⟨m, Nat.lt_succ_of_lt hm, hp, fun k hk hkn => ?_⟩
      rcases Nat.lt_succ_iff_lt_or_eq.1 hkn with hlt | rfl
      · exact hq k hk hlt
      · exact hn

/-- **A barred application has a live ordinary reservoir** exactly if one was brought to it while
it was barred, and has not been taken away since. -/
theorem isLive_advance_iff {r : Run E Empty Unit} (hcandid : r.service.IsCandid) {app : String}
    (hstart : r.service.isLive app = false) (n : Nat)
    (hbarred : (r.advance (.idle E) n).service.isBarred app) :
    (r.advance (.idle E) n).service.isLive app ↔
      ∃ m < n, (r.advance (.idle E) m).Revives app ∧
        ∀ k, m < k → k < n → (r.advance (.idle E) k).fate? app ≠ some false := by
  induction n with
  | zero =>
    refine ⟨fun hlive => ?_, fun ⟨m, hm, _⟩ => absurd hm (Nat.not_lt_zero m)⟩
    exact absurd (hstart.symm.trans hlive) Bool.false_ne_true
  | succ n ih =>
    have hturns := turns_advance (isCandid_advance hcandid n) app
    rw [← advance_add] at hturns
    rw [hturns.isLive, exists_since_succ]
    cases hfate : (r.advance (.idle E) n).fate? app with
    | none =>
      -- nothing happened to the application, so what held before still does
      have hkept : none ≠ some false := (Option.some_ne_none _).symm
      have hbefore := hturns.isBarred (hfate ▸ hkept) hbarred
      have hnot : ¬ (r.advance (.idle E) n).Revives app := fun hrevives =>
        absurd (hfate.symm.trans hrevives.fate) (Option.some_ne_none _).symm
      refine (ih hbefore).trans ⟨fun hrevived => .inr ⟨hrevived, hkept⟩, ?_⟩
      rintro (hrevives | ⟨hrevived, -⟩)
      · exact absurd hrevives hnot
      · exact hrevived
    | some lives =>
      cases lives with
      | true =>
        -- this very step brought it
        have hbefore := hturns.isBarred (by rw [hfate]; decide) hbarred
        exact ⟨fun _ => .inl ⟨hbefore, hfate⟩, fun _ => rfl⟩
      | false =>
        -- whatever was there before, it is gone
        refine ⟨fun hcon => absurd hcon Bool.false_ne_true, ?_⟩
        rintro (hrevives | ⟨-, hcon⟩)
        · exact absurd (hfate.symm.trans hrevives.fate) (by decide)
        · exact absurd rfl hcon

omit [HasPriority E] in
theorem isCandid_fresh (settings : Config.Settings) (transport : Transport E Empty)
    (steps : List (Step E Empty)) (random : Random.Source) :
    (fresh settings transport steps random).service.IsCandid :=
  ⟨fun hget => absurd hget.symm (Option.some_ne_none _),
    fun hget => absurd hget.symm (Option.some_ne_none _)⟩

end Steps

end Run

end Telemetry.Events
