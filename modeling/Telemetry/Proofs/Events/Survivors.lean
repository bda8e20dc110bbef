import Telemetry.Proofs.Events.Offered
import Telemetry.Proofs.Events.OrdinaryHarvest
import Telemetry.Proofs.Sampling.Survival

/-!
# Sampled events get through to the next harvest

For each event of an application, the program asks the service for a priority and records the event
with it, and so it does for other applications in between (`Draw`). The priority is drawn by a
decision of the live ordinary reservoir, and the event is offered to the same reservoir. So from one
harvest to the next, that reservoir goes through a cycle (`Run.InCycle`), and keeps the events that
it has sampled (`Run.keepsSampled_recordAll`).

The reservoir may not be there yet. It is made then when the first priority is asked for, and what
is said of it is said of the one that would be made (`Service.nextReservoir`). A call changes it by
some function, or by none if the call is for another application (`Service.Applies`):

| call | for the application | for another one |
|---|---|---|
| `Service.decideNext` | `Reservoir.decide` | nothing |
| `Service.recordPlainly` | `Reservoir.offer` | nothing |
-/

namespace Telemetry.Events

open Sampling (HasPriority Offer Reservoir)

variable {E P S : Type}

namespace Service

/-! ### The next reservoir -/

/-- **The reservoir that the next ordinary event of an application is offered to**: the live one, or
the one that is made if there is none. -/
def nextReservoir (s : Service E) (app : String) : Reservoir E :=
  (s.getOrCreate .ordinary app).2.reservoir (s.getOrCreate .ordinary app).1

section Applies

variable {s s' s'' : Service E} {app app' : String} {ref : Ref} {f g : Reservoir E → Reservoir E}
  {kind : Kind}

/-- It is the one that ordinary events are offered to. -/
theorem nextReservoir_eq_reservoirFor (s : Service E) (app : String) :
    s.nextReservoir app = s.reservoirFor .ordinary app := rfl

/-- It takes events. -/
theorem Sound.isSealed_nextReservoir {aside : Multiset Ref} (h : s.Sound aside) (app : String) :
    (s.nextReservoir app).isSealed = false :=
  h.isSealed_reservoirFor .ordinary app

/-! ### What a call does to it -/

/-- **A call changes the next reservoir of an application** by `f`, and no rule that it obeys. -/
structure Applies (app : String) (f : Reservoir E → Reservoir E) (s s' : Service E) : Prop where
  reservoir : s'.nextReservoir app = f (s.nextReservoir app)
  appSettings : s'.appSettings app = s.appSettings app
  rules : s.SameRules s'
  sound : s'.Sound 0

theorem Applies.trans (h : s.Applies app f s') (h' : s'.Applies app g s'') :
    s.Applies app (g ∘ f) s'' where
  reservoir := by rw [h'.reservoir, h.reservoir, Function.comp_apply]
  appSettings := h'.appSettings.trans h.appSettings
  rules := h.rules.trans h'.rules
  sound := h'.sound

/-- Nothing of an application changes. -/
theorem applies_id (hs : s'.Sound 0)
    (hreservoir : s'.reservoirFor .ordinary app = s.reservoirFor .ordinary app)
    (hsettings : s'.appSettings app = s.appSettings app) (hrules : s.SameRules s') :
    s.Applies app id s' :=
  ⟨hreservoir, hsettings, hrules, hs⟩

theorem Sound.applies_askEnabled (h : s.Sound 0) (app app' : String) :
    s.Applies app id (s.askEnabled app').2 :=
  applies_id (h.sameReservoirs (s.sameReservoirs_askEnabled app'))
    (s.reservoirFor_askEnabled app' .ordinary app) (s.appSettings_askEnabled app' app)
    (s.sameRules_askEnabled app')

theorem Sound.applies_sameButNames (h : s.Sound 0) (hsame : s.SameButNames s') (app : String) :
    s.Applies app id s' :=
  applies_id (h.sameReservoirs hsame.toSameReservoirs) (hsame.reservoirFor .ordinary app)
    (hsame.appSettings app) hsame.toSameSettings.sameRules

theorem Sound.applies_refl (h : s.Sound 0) (app : String) : s.Applies app id s :=
  applies_id h rfl rfl (.refl s)

/-- **Getting or making a reservoir** changes none: it may be the next one that is made. -/
theorem Sound.applies_getOrCreate (h : s.Sound 0) (kind : Kind) (app app' : String) :
    s.Applies app id (s.getOrCreate kind app').2 :=
  have hsame := s.sameSettings_getOrCreate kind app'
  applies_id (h.getOrCreate kind app') (h.reservoirFor_getOrCreate .ordinary kind app app')
    (hsame.appSettings app) hsame.sameRules

/-- **A live reservoir changes**, which may be that of the application. -/
theorem Sound.applies_modify (h : s.Sound 0) (hlive : s.liveRef? kind app' = some ref)
    (hshell : ∀ r : Reservoir E, (f r).shell = r.shell)
    (hsealed : ∀ r : Reservoir E, (f r).isSealed = r.isSealed) (app : String) :
    s.Applies app (if kind = .ordinary ∧ app' = app then f else id) (s.modify ref f) := by
  refine ⟨?_, rfl, (s.sameSettings_modify ref f).sameRules, h.modify ref hshell hsealed⟩
  rw [nextReservoir_eq_reservoirFor, h.reservoirFor_modify hlive]
  split <;> rfl

/-- **A decision** for another application changes nothing. -/
theorem Sound.applies_decideNext (h : s.Sound 0) (app app' : String) (random : Float) :
    s.Applies app (if app' = app then fun r => (r.decide random).2 else id)
      (s.decideNext app' random).2 := by
  have hgot := h.applies_getOrCreate .ordinary app app'
  have hdecided := hgot.sound.applies_modify (f := fun r => (r.decide random).2)
    (s.liveRef?_getOrCreate .ordinary app') (fun r => r.shell_decide random)
    (fun r => r.isSealed_decide random) app
  simp only [true_and] at hdecided
  exact hgot.trans hdecided

variable [HasPriority E] {work : Work E}

/-- **An offer** to another reservoir changes nothing. -/
theorem Sound.applies_offerLive (h : s.Sound 0) (kind : Kind) (app app' : String) (event : E) :
    s.Applies app (if kind = .ordinary ∧ app' = app then offering event else id)
      (s.offerLive kind app' event).2 := by
  have hgot := h.applies_getOrCreate kind app app'
  exact hgot.trans (hgot.sound.applies_modify (f := offering event)
    (s.liveRef?_getOrCreate kind app') (fun r => r.shell_offer _ event)
    (fun r => r.isSealed_offer _ event) app)

omit [HasPriority E] in
theorem Sound.applies_removeOrdinary (h : s.Sound 0) (hother : app' ≠ app) :
    s.Applies app id (s.removeOrdinary app') := by
  have hsame := s.sameSettings_removeOrdinary app'
  have hlive : (s.removeOrdinary app').liveRef? .ordinary app = s.liveRef? .ordinary app := by
    change (s.live.remove .ordinary app').get? .ordinary app = _
    rw [Store.get?_remove, if_neg fun hcon => hother hcon.2.symm]
    rfl
  exact applies_id (h.retires (s.retires_removeOrdinary app'))
    (reservoirFor_eq hlive (fun _ _ => rfl) (hsame.freshReservoir .ordinary app 0))
    (hsame.appSettings app) hsame.sameRules

/-- The offer of an event for another application changes nothing, be it to both reservoirs. -/
theorem Sound.applies_offerBuilt_other (h : s.Sound 0) (hother : app' ≠ app) (work : Work E) :
    s.Applies app id (s.offerBuilt app' work).2 := by
  have hoffered : ∀ {s₁ : Service E}, s₁.Sound 0 → ∀ kind event,
      s₁.Applies app id (s₁.offerLive kind app' event).2 := fun {s₁} hs₁ kind event => by
    have hlive := hs₁.applies_offerLive kind app app' event
    rwa [if_neg fun hcon => hother hcon.2] at hlive
  rw [offerBuilt]
  split
  · have hfirst := hoffered h .synthetic work.event
    generalize s.offerLive .synthetic app' work.event = result at hfirst ⊢
    obtain ⟨decision, s₁⟩ := result
    cases decision with
    | rejected event => exact hfirst.trans (hoffered hfirst.sound .ordinary event)
    | accepted => exact hfirst
    | closed _ => exact hfirst
  · exact hoffered h .ordinary work.event

/-- **A record** for another application changes nothing. -/
theorem Sound.applies_recordPlainly_other (h : s.Sound 0) (hother : app' ≠ app) (work : Work E) :
    s.Applies app id (s.recordPlainly app' work).2 := by
  have hasked := h.applies_askEnabled app app'
  rw [recordPlainly]
  generalize s.askEnabled app' = result at hasked ⊢
  obtain ⟨enabled, s₁⟩ := result
  split
  · exact h.applies_refl app
  · cases enabled with
    | false => exact hasked.trans (hasked.sound.applies_removeOrdinary hother)
    | true =>
      have hshared := hasked.sound.applies_sameButNames
        (s₁.sameButNames_internAt s₁.namesVersion work.name) app
      exact (hasked.trans hshared).trans (hshared.sound.applies_offerBuilt_other hother work)

/-- **A record** for the application is the offer of its event, if that is ordinary. -/
theorem Sound.applies_recordPlainly (h : s.Sound 0) (hcandid : s.IsCandid) (hactive : s.isActive)
    (henabled : (s.appSettings app).enabled) (hordinary : work.isSynthetic = false) :
    s.Applies app (offering work.event) (s.recordPlainly app work).2 := by
  have hasked := h.applies_askEnabled app app
  have hcollected : (s.askEnabled app).1 = true := (hcandid.fst_askEnabled app).trans henabled
  rw [recordPlainly, if_neg (by rw [hactive]; exact Bool.false_ne_true)]
  generalize s.askEnabled app = result at hasked hcollected ⊢
  obtain ⟨enabled, s₁⟩ := result
  obtain rfl : enabled = true := hcollected
  have hshared := hasked.sound.applies_sameButNames
    (s₁.sameButNames_internAt s₁.namesVersion work.name) app
  have hoffered := hshared.sound.applies_offerLive .ordinary app app work.event
  rw [if_pos ⟨rfl, rfl⟩] at hoffered
  change s.Applies app (offering work.event)
    ((s₁.internAt s₁.namesVersion work.name).offerBuilt app work).2
  rw [offerBuilt, hordinary]
  exact (hasked.trans hshared).trans hoffered

end Applies

end Service

/-! ### Draws -/

/-- **An event to come**: a priority is drawn for it, it is made with that, and recorded. -/
structure Draw (E : Type) where
  app : String
  make : Nat → Float → Work E

/-- The call that does all this. -/
def Draw.step (d : Draw E) : Step E P := .recordDrawn d.app d.make

/-- The event carries the priority that was drawn for it, and is an ordinary one if it is of the
application. -/
structure Draw.Suits [HasPriority E] (app : String) (d : Draw E) : Prop where
  announced : ∀ n x, (d.make n x).priority = x
  carried : ∀ n x, HasPriority.priority (d.make n x).event = x
  ordinary : d.app = app → ∀ n x, (d.make n x).isSynthetic = false

namespace Run

variable [HasPriority E] {app : String} {r : Run E Empty Unit} {d : Draw E}

/-- Draws and records some events, one after the other. -/
def recordAll (r : Run E Empty Unit) (draws : List (Draw E)) : Run E Empty Unit :=
  draws.foldl (fun r d => r.perform (.idle E) d.step) r

/-- The event that is made next. -/
def nextEvent (r : Run E Empty Unit) (d : Draw E) : E :=
  (d.make (r.numbered + 1) (r.drawPriority d.app).lastDrawn).event

/-- What is decided for the next event, and the event, if it is of the application. -/
def drawnNext (app : String) (r : Run E Empty Unit) (d : Draw E) : List (Bool × E) :=
  if d.app = app then [((r.service.decideNext d.app r.random.unit.1).1, r.nextEvent d)] else []

/-- **What is decided for the events of an application**, and the events. -/
def drawn (app : String) : Run E Empty Unit → List (Draw E) → List (Bool × E)
  | _, [] => []
  | r, d :: rest => r.drawnNext app d ++ drawn app (r.perform (.idle E) d.step) rest

/-- **A run during a cycle** of the ordinary reservoir of an application that is collected. -/
structure InCycle (app : String) (M decidedLast target : ℕ) (past : List (Bool × E))
    (r : Run E Empty Unit) : Prop where
  proper : r.IsProper
  stack : r.stack = []
  isCandid : r.service.IsCandid
  isActive : r.service.isActive
  enabled : (r.service.appSettings app).enabled
  cycle : (r.service.nextReservoir app).InCycle M decidedLast target past

/-- What a draw does to the next reservoir of an application. -/
def drawing (r : Run E Empty Unit) (d : Draw E) (ρ : Reservoir E) : Reservoir E :=
  Service.offering (r.nextEvent d) (ρ.decide r.random.unit.1).2

variable {M decidedLast target : ℕ} {past : List (Bool × E)}

/-- **A draw** decides and offers, if it is for the application. -/
theorem InCycle.applies (h : r.InCycle app M decidedLast target past) (hd : d.Suits app) :
    r.service.Applies app (if d.app = app then r.drawing d else id)
      (r.perform (.idle E) d.step).service := by
  have hsound : r.service.Sound 0 := h.proper.sound.service.mono (Multiset.zero_le _)
  have hdecided := hsound.applies_decideNext app d.app r.random.unit.1
  have hcarried : (d.make (r.numbered + 1) (r.drawPriority d.app).lastDrawn).priority =
      HasPriority.priority (r.nextEvent d) := (hd.announced _ _).trans (hd.carried _ _).symm
  have hrecorded : (r.service.decideNext d.app r.random.unit.1).2.Applies app
      (if d.app = app then Service.offering (r.nextEvent d) else id)
      ((r.service.decideNext d.app r.random.unit.1).2.recordPlainly d.app
        (d.make (r.numbered + 1) (r.drawPriority d.app).lastDrawn)).2 := by
    split
    next hown =>
      subst hown
      exact hdecided.sound.applies_recordPlainly (hdecided.rules.isCandid h.isCandid)
        (hdecided.rules.isActive.trans h.isActive) (hdecided.appSettings ▸ h.enabled)
        (hd.ordinary rfl _ _)
    next hother => exact hdecided.sound.applies_recordPlainly_other hother _
  have hends : ((r.push (.steps [])).start (.idle E) d.step).Ends (.idle E) fun r' =>
      r.service.Applies app (if d.app = app then r.drawing d else id) r'.service := by
    refine Ends.record (r := { (r.push (.steps [])).drawPriority d.app with
      numbered := r.numbered + 1 }) (congrArg (Frame.steps [] :: ·) h.stack) hdecided.sound
      (fun turn hm => absurd hm List.not_mem_nil) hcarried rfl fun r' hsame _ _ => ?_
    have hall := (hdecided.trans hrecorded).trans (hrecorded.sound.applies_sameButNames hsame app)
    split at hall
    next hown => rwa [if_pos hown]
    next hother => rwa [if_neg hother]
  exact (hends.perform h.proper).2

/-- **The cycle goes on** with each draw. -/
theorem InCycle.perform (h : r.InCycle app M decidedLast target past) (hd : d.Suits app) :
    (r.perform (.idle E) d.step).InCycle app M decidedLast target (past ++ r.drawnNext app d) := by
  have happlies := h.applies hd
  have hproper : (r.perform (.idle E) d.step).IsProper := (h.proper.push_steps [d.step]).advance _
  have hstack : (r.perform (.idle E) d.step).stack = [] :=
    (h.proper.push_steps [d.step]).stack_complete
  refine ⟨hproper, hstack, happlies.rules.isCandid h.isCandid,
    happlies.rules.isActive.trans h.isActive, happlies.appSettings ▸ h.enabled, ?_⟩
  rw [happlies.reservoir, drawnNext]
  split
  next hown =>
    subst hown
    -- the priority is drawn by the decision, from the next random number
    have hfraction := Sampling.isFraction_unit r.random.unit.2
    have hpriority : HasPriority.priority (r.nextEvent d) =
        Sampling.priorityOf ((r.service.nextReservoir d.app).decide r.random.unit.1).1
          r.random.unit.2.unit.1 := hd.carried _ _
    exact h.cycle.next (Sampling.isFraction_unit r.random)
      (hpriority ▸ Sampling.isGraded_priorityOf _ hfraction)
  next =>
    rw [List.append_nil]
    exact h.cycle

/-- **The cycle goes on** with all draws. -/
theorem InCycle.recordAll (h : r.InCycle app M decidedLast target past) {draws : List (Draw E)}
    (hdraws : ∀ d ∈ draws, d.Suits app) :
    (r.recordAll draws).InCycle app M decidedLast target (past ++ drawn app r draws) := by
  induction draws generalizing r past with
  | nil => rwa [drawn, List.append_nil]
  | cons d rest ih =>
    rw [List.forall_mem_cons] at hdraws
    have hrest := ih (h.perform hdraws.1) hdraws.2
    rwa [List.append_assoc] at hrest

/-! ### The next harvest -/

/-- **A harvest** sends all that the next reservoir of its application holds, if it holds
anything. -/
theorem InCycle.harvest (h : r.InCycle app M decidedLast target past)
    {transport : Transport E Empty} (hquiet : ∀ reply ∈ transport.planned, reply.during = [])
    (random : Random.Source) :
    let r' := (calling r.service transport random).perform (.idle E) (.harvest app)
    (r.service.nextReservoir app).retained = 0 ∨ ∃ batch outcome,
      r'.ordinarySends = [(batch, outcome)] ∧ batch.app = app ∧
        (batch.events : Multiset E) = (r.service.nextReservoir app).retained := by
  intro r'
  have hproper := h.proper.calling transport random
  have hsound : r.service.Sound 0 := h.proper.sound.service.mono (Multiset.zero_le _)
  have hahead : ((calling r.service transport random).push (.steps [])).IsAhead app r.service :=
    ⟨⟨rfl, rfl⟩, hquiet, .refl hsound h.isCandid⟩
  have hends : (((calling r.service transport random).push (.steps [])).start (.idle E)
      (.harvest app)).Ends (.idle E) fun r' => ∃ new,
        r.service.SentOff app r'.ordinarySends new :=
    .harvest hahead h.isActive fun _ hr => .harvestOrdinary hr h.enabled hsound h.proper.regular
      fun _ _ _ hsent => ⟨_, hsent⟩
  obtain ⟨new, hsent⟩ : ∃ new, r.service.SentOff app r'.ordinarySends new :=
    (hends.perform hproper).2
  generalize r'.ordinarySends = sends at hsent ⊢
  cases hsent with
  | nothing hempty _ =>
    refine .inl ?_
    cases hlive : r.service.liveRef? .ordinary app with
    | none => rw [Service.nextReservoir_eq_reservoirFor, Service.reservoirFor_of_none hlive]; rfl
    | some old =>
      rw [Service.nextReservoir_eq_reservoirFor, Service.reservoirFor_of_some hlive]
      exact Reservoir.isEmpty_iff.1 (hempty old hlive)
  | batch hlive _ hevents _ _ =>
    rw [Service.nextReservoir_eq_reservoirFor, Service.reservoirFor_of_some hlive]
    exact .inr ⟨_, _, rfl, rfl, hevents⟩

omit [HasPriority E] in
/-- The events that have been sampled. -/
def sampledOf (past : List (Bool × E)) : List E := (past.filter (·.1)).map (·.2)

/-- **Sampled events survive their cycle.** In a cycle that begins with nothing retained and nothing
decided, whatever the random numbers, the ordinary reservoir of an application retains as many
sampled events as it has room for. If that is twice the target, the next harvest sends all of them,
however many others have been recorded.

Of the power function, no more is required than for the bound on what is sampled: it matters for a
target of zero only. Counts have 64 bits. -/
theorem keepsSampled_recordAll {s : Service E} (hs : s.IsReached) (transport : Transport E Empty)
    (random : Random.Source) (hactive : s.isActive) (henabled : (s.appSettings app).enabled)
    (hstart : (s.nextReservoir app).StartsCycle M decidedLast target) {draws : List (Draw E)}
    (hdraws : ∀ d ∈ draws, d.Suits app) :
    let r := (calling s transport random).recordAll draws
    let past := drawn app (calling s transport random) draws
    (r.service.nextReservoir app).KeepsSampled M past ∧
      (2 * target ≤ M → 2 * target < 2 ^ 64 ∨ past.length ≤ 2 ^ 64 →
        (decidedLast ≠ 0 → target = 0 → (Float.pow 0.0 (0.0 / 0.0)).isNaN) →
          ∀ transport' : Transport E Empty, (∀ reply ∈ transport'.planned, reply.during = []) →
            ∀ random',
              let r' := (calling r.service transport' random').perform (.idle E) (.harvest app)
              sampledOf past = [] ∨ ∃ batch outcome, r'.ordinarySends = [(batch, outcome)] ∧
                batch.app = app ∧ (sampledOf past : Multiset E) ≤ batch.events) := by
  intro r past
  have hproper := isProper_calling hs transport random
  have hbegin : (calling s transport random).InCycle app M decidedLast target [] :=
    ⟨hproper, rfl, hs.isCandid, hactive, henabled,
      hstart.inCycle (hproper.sound.service.isSealed_nextReservoir app)⟩
  have hend : r.InCycle app M decidedLast target past := hbegin.recordAll hdraws
  refine ⟨hend.cycle.keepsSampled, fun hroom hfits hpower transport' hquiet random' => ?_⟩
  have hkept := hend.cycle.sampled_le_retained ((hend.cycle.sampled_le hpower hfits).trans hroom)
  rcases hend.harvest hquiet random' with hnone | ⟨batch, outcome, hsends, happ, hevents⟩
  · rw [hnone, Multiset.le_zero, Multiset.coe_eq_zero] at hkept
    exact .inl hkept
  · exact .inr ⟨batch, outcome, hsends, happ, hevents ▸ hkept⟩

open Simulation (Event) in
/-- A transaction to be recorded with the priority that is drawn for it. -/
def drawTransaction (app : String) : Draw Event where
  app := app
  make n x := transaction (app ++ toString n) x

open Simulation (Event) in
/-- A service with room for two events of an application, of which one is to be sampled. -/
def smallService : Service Event :=
  (fresh { transactionEvents := { maxSamplesStored := 2, targetSamplesStored := 1 } } {} []
    (.ofSeed 0)).service

open Simulation (Event) in
/-- Of four events the first one is sampled, and it is one of the two that are sent. -/
theorem keepsSampled_smallService :
    let draws := ["a", "a", "b", "a", "a"].map drawTransaction
    let r := (calling smallService {} (.ofSeed 7)).recordAll draws
    let past := drawn "a" (calling smallService {} (.ofSeed 7)) draws
    let r' := (calling r.service {} (.ofSeed 0)).perform (.idle Event) (.harvest "a")
    past.map (·.1) = [true, false, false, false] ∧
      (r.service.nextReservoir "a").KeepsSampled 2 past ∧
      ∃ batch outcome, r'.ordinarySends = [(batch, outcome)] ∧ batch.app = "a" ∧
        (sampledOf past : Multiset Event) ≤ batch.events := by
  intro draws r past r'
  have hreached : smallService.IsReached := ⟨_, _, _, _, 0, rfl⟩
  have hstart : (smallService.nextReservoir "a").StartsCycle 2 0 1 :=
    ⟨by decide +kernel, by decide +kernel, by decide +kernel, by decide +kernel⟩
  have hdraws : ∀ d ∈ draws, d.Suits "a" := fun d hd => by
    obtain ⟨app, -, rfl⟩ := List.mem_map.1 hd
    exact ⟨fun _ _ => rfl, fun _ _ => rfl, fun _ _ _ => rfl⟩
  obtain ⟨hkept, hsent⟩ := keepsSampled_recordAll hreached {} (.ofSeed 7) (by decide +kernel)
    (by decide +kernel) hstart hdraws
  have hsampled : (sampledOf past).length ≠ 0 := by decide +kernel
  have hquiet : ∀ reply ∈ ({} : Transport Event Empty).planned, reply.during = [] := by simp
  exact ⟨by decide +kernel, hkept, (hsent (by decide) (.inl (by decide)) (absurd rfl) {} hquiet
    (.ofSeed 0)).resolve_left fun hnone => hsampled (congrArg List.length hnone)⟩

end Run

end Telemetry.Events
