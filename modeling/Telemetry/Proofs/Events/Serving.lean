import Telemetry.Proofs.Events.Calm

/-!
# A service for some applications

A calm run (`Telemetry.Proofs.Events.Calm`) has room for everything, whatever the application.
Often only some applications are ever recorded for, and only these are set up accordingly:
`Service.Serves` says of a service between two calls that it collects for some applications,
with room for `N` events in each of their reservoirs, and that nothing waits.

Two calls are followed here as operations of the service alone, with nothing else going on:

| operation | what the service holds afterwards |
|---|---|
| `Service.taking`: an event is recorded | the event, too (`Serves.gains_taking`) |
| `Service.harvested`: a harvest | what is not in its batches (`Serves.harvested`) |

A harvest leaves nothing of its application (`Service.IsBare`), so after a harvest of each of the
applications nothing is held at all (`Serves.holding_eq_zero`).
-/

namespace Telemetry.Config

/-- **Settings under which some applications collect**, with room for `N` events in each of their
reservoirs. A batch may wait, and a harvest may send it. -/
structure Settings.Collects (apps : List String) (N : Nat) (settings : Settings) : Prop where
  enabled : settings.transactionEvents.enabled
  enabled_forApp : ∀ app ∈ apps, (settings.forApp app).enabled
  ordinary : ∀ app ∈ apps, N ≤ (settings.forApp app).maxSamplesStored
  synthetic : N ≤ settings.harvest.synthetics.maxEventsPerApp
  backlog : 0 < settings.harvest.synthetics.maxPendingBatches
  budget : 0 < settings.harvest.synthetics.maxBatchesPerHarvest

end Telemetry.Config

namespace Telemetry.Events

open Sampling (HasPriority Offer)
open Sampling.Reservoir (accepted capacity_of_shell)

variable {E T : Type} {apps : List String} {N : Nat}

namespace Service

/-- **A service that collects for some applications**, with room for `N` events in each of
their reservoirs. Nothing waits, and there is a place in the backlog. -/
structure Serves (apps : List String) (N : Nat) (s : Service E) : Prop where
  sound : s.Sound 0
  queue : s.backlog.queue = []
  isActive : s.isActive
  enabled : ∀ app ∈ apps, (s.appSettings app).enabled
  remembered : ∀ app ∈ apps, s.remembered? app ≠ some false
  fresh : ∀ app ∈ apps, ∀ kind decidedLast, N ≤ (s.freshReservoir kind app decidedLast).capacity
  live : ∀ {kind app ref}, s.liveRef? kind app = some ref →
    app ∈ apps ∧ N ≤ (s.reservoir ref).capacity
  backlog : 0 < s.backlog.capacity
  budget : 0 < s.settings.harvest.synthetics.maxBatchesPerHarvest

/-- A new service serves the applications that its settings are made for. -/
theorem serves_create {settings : Config.Settings} (h : settings.Collects apps N) :
    (Service.create settings : Service E × List (Note E)).1.Serves apps N where
  sound := (Run.sound_fresh settings { habit := .always none } [] (.ofSeed 0)).service
  queue := rfl
  isActive := by
    change (settings.transactionEvents.enabled && true) = true
    rw [h.enabled]
    rfl
  enabled app happ := by
    rw [appSettings_create]
    exact h.enabled_forApp app happ
  remembered _ _ := nofun
  fresh app happ kind _ := by
    cases kind with
    | ordinary =>
      change N ≤ (Service.appSettings _ app).maxSamplesStored
      rw [appSettings_create]
      exact h.ordinary app happ
    | synthetic => exact h.synthetic
  live {kind _ _} hlive := by cases kind <;> cases hlive
  backlog := h.backlog
  budget := h.budget

/-- **What an operation adds** to a service that goes on to serve. -/
structure Gains (label : String → T) (apps : List String) (N : Nat) (s s' : Service E)
    (brought : Multiset (T × String × E)) : Prop where
  serves : s'.Serves apps N
  holding : s'.holding label 0 = s.holding label 0 + brought

variable {label : String → T} {s s' s'' : Service E} {brought brought' : Multiset (T × String × E)}
  {app : String}

theorem Gains.trans (h : Gains label apps N s s' brought)
    (h' : Gains label apps N s' s'' brought') :
    Gains label apps N s s'' (brought + brought') :=
  ⟨h'.serves, by rw [h'.holding, h.holding, Multiset.add_assoc]⟩

theorem Gains.andThen (h : Gains label apps N s s' 0) (h' : Gains label apps N s' s'' brought') :
    Gains label apps N s s'' brought' := by
  have htrans := h.trans h'
  rwa [Multiset.zero_add] at htrans

/-- What adds nothing leaves the room as it is. -/
theorem Gains.room (h : Gains label apps N s s' 0) (hroom : (s.holding label 0).card < N) :
    (s'.holding label 0).card < N := by
  rw [h.holding, Multiset.add_zero]
  exact hroom

/-! ### Operations that leave the settings alone -/

theorem Serves.grows (h : s.Serves apps N) (hs : s.SameSettings s') (hsound : s'.Sound 0)
    (hqueue : s'.backlog.queue = s.backlog.queue) {spent : Ref → Prop} (hg : Grows spent s s')
    (hlive : ∀ {kind app ref}, s'.liveRef? kind app = some ref →
      s.liveRef? kind app = some ref ∨ (app ∈ apps ∧ N ≤ (s'.reservoir ref).capacity)) :
    s'.Serves apps N where
  sound := hsound
  queue := hqueue.trans h.queue
  isActive := by rw [hs.isActive]; exact h.isActive
  enabled app happ := by rw [hs.appSettings]; exact h.enabled app happ
  remembered app happ := by rw [hs.remembered?]; exact h.remembered app happ
  fresh app happ kind decidedLast := by rw [hs.freshReservoir]; exact h.fresh app happ kind _
  live {kind app ref} hr := by
    rcases hlive hr with hr' | hnew
    · rw [capacity_of_shell (hg.shell ref (h.sound.live hr').lt)]
      exact h.live hr'
    · exact hnew
  backlog := by rw [hs.capacity]; exact h.backlog
  budget := by rw [hs.settings]; exact h.budget

theorem Serves.gains_same (h : s.Serves apps N) (hs : s.SameSettings s')
    (hr : s.SameReservoirs s') : Gains label apps N s s' 0 where
  serves := h.grows hs (h.sound.sameReservoirs hr) hr.queue (hr.grows fun _ => False)
    fun hlive => .inl ((hr.liveRef? _ _).symm.trans hlive)
  holding := (hr.holding 0).trans (Multiset.add_zero _).symm

theorem Serves.gains_askEnabled (h : s.Serves apps N) (app : String) :
    Gains label apps N s (s.askEnabled app).2 0 := by
  have hr := s.sameReservoirs_askEnabled app
  have hremembered : ∀ app' ∈ apps, (s.askEnabled app).2.remembered? app' ≠ some false :=
    fun app' happ' => s.remembered?_askEnabled (h.enabled app' happ') (h.remembered app' happ') app
  refine ⟨?_, (hr.holding 0).trans (Multiset.add_zero _).symm⟩
  unfold Service.askEnabled at hremembered ⊢
  split at hremembered
  · exact h
  · exact ⟨h.sound.sameReservoirs ⟨rfl, rfl, rfl⟩, h.queue, h.isActive, h.enabled, hremembered,
      h.fresh, h.live, h.backlog, h.budget⟩

theorem Serves.fst_askEnabled (h : s.Serves apps N) (happ : app ∈ apps) :
    (s.askEnabled app).1 = true :=
  s.fst_askEnabled (h.enabled app happ) (h.remembered app happ)

theorem Serves.gains_getOrCreate (h : s.Serves apps N) (kind : Kind) (happ : app ∈ apps) :
    Gains label apps N s (s.getOrCreate kind app).2 0 := by
  refine ⟨h.grows (s.sameSettings_getOrCreate kind app) (h.sound.getOrCreate kind app)
    (congrArg Backlog.queue (s.backlog_getOrCreate kind app))
    (s.grows_getOrCreate (fun _ => False) kind app) fun {kind' app' ref} hr => ?_,
    (h.sound.holding_getOrCreate kind app).trans (Multiset.add_zero _).symm⟩
  cases hlive : s.liveRef? kind app with
  | some ref' =>
    rw [getOrCreate_of_some hlive] at hr
    exact .inl hr
  | none =>
    rw [getOrCreate_of_none hlive] at hr ⊢
    rw [liveRef?_install] at hr
    split at hr
    next hsame =>
      obtain rfl := Option.some.inj hr
      rw [hsame.2, reservoir_install_self]
      exact .inr ⟨happ, h.fresh app happ kind 0⟩
    next => exact .inl hr

/-! ### Recording -/

theorem Serves.gains_decide (h : s.Serves apps N) {kind : Kind} {ref : Ref}
    (hlive : s.liveRef? kind app = some ref) (random : Float) :
    Gains label apps N s (s.decide ref random).2 0 :=
  ⟨h.grows (s.sameSettings_modify ref _) (h.sound.decide ref random) rfl
    (h.sound.grows_decide (fun _ => False) hlive random) .inl,
    (s.holding_decide ref random 0).trans (Multiset.add_zero _).symm⟩

theorem Serves.gains_decideNext (h : s.Serves apps N) (happ : app ∈ apps) (random : Float) :
    Gains label apps N s (s.decideNext app random).2 0 := by
  have hgot : Gains label apps N s (s.getOrCreate .ordinary app).2 0 :=
    h.gains_getOrCreate .ordinary happ
  exact hgot.andThen (hgot.serves.gains_decide (s.liveRef?_getOrCreate .ordinary app) random)

/-- As long as fewer events are held than there is room for, whichever reservoir an event
competes for takes it. -/
theorem Serves.takes (h : s.Serves apps N) (hroom : (s.holding label 0).card < N) (kind : Kind)
    (happ : app ∈ apps) {priority : Float} (hnumber : Double.isNumber priority) :
    (s.getOrCreate kind app).2.Takes (s.getOrCreate kind app).1 priority := by
  have hgot : Gains label apps N s (s.getOrCreate kind app).2 0 := h.gains_getOrCreate kind happ
  have hlive := s.liveRef?_getOrCreate kind app
  have hmem := Store.mem_all_iff.2 ⟨kind, app, hlive⟩
  refine .inr ⟨hmem, hnumber, Nat.lt_of_lt_of_le ?_ (hgot.serves.live hlive).2⟩
  have hstock := hgot.room hroom
  rw [Service.holding, Multiset.add_zero] at hstock
  exact Nat.lt_of_le_of_lt (size_le_card_stock label hmem) hstock

variable (label) in
theorem Serves.gains_offer (h : s.Serves apps N) {kind : Kind} {ref : Ref} {priority : Float}
    (hlive : s.liveRef? kind app = some ref) (htakes : s.Takes ref priority) (event : E) :
    (s.offer ref priority event).1 = .accepted ∧
      Gains label apps N s (s.offer ref priority event).2 {(label kind.service, app, event)} := by
  have hopen := h.sound.isOpen hlive
  have haccepted : (s.offer ref priority event).1 = .accepted := by
    have hclosed := Sampling.Reservoir.offer_fst_ne_closed hopen priority event
    have hrejected := htakes.offer_fst_ne_rejected event
    change ∀ returned, (s.offer ref priority event).1 ≠ .closed returned at hclosed
    cases hdecision : (s.offer ref priority event).1 with
    | accepted => rfl
    | rejected _ => exact absurd hdecision (hrejected _)
    | closed _ => exact absurd hdecision (hclosed _)
  obtain ⟨lost, hlost, hnone⟩ :=
    h.sound.holding_offer label (h.sound.live hlive) priority event
  rw [hnone htakes, Multiset.add_zero, haccepted] at hlost
  exact ⟨haccepted, h.grows (s.sameSettings_modify ref _) (h.sound.offer ref priority event) rfl
    (s.grows_offer (fun _ => False) ref priority event) .inl, hlost⟩

/-- An event that competes for a live reservoir is accepted, also if its name is shared in the
meantime. -/
theorem Serves.gains_compete (h : s.Serves apps N) (hroom : (s.holding label 0).card < N)
    (kind : Kind) (happ : app ∈ apps) {priority : Float} (hnumber : Double.isNumber priority)
    (event : E) (hs : (s.getOrCreate kind app).2.SameSettings s')
    (hr : (s.getOrCreate kind app).2.SameReservoirs s') :
    (s'.offer (s.getOrCreate kind app).1 priority event).1 = .accepted ∧
      Gains label apps N s (s'.offer (s.getOrCreate kind app).1 priority event).2
        {(label kind.service, app, event)} := by
  have hgot : Gains label apps N s (s.getOrCreate kind app).2 0 := h.gains_getOrCreate kind happ
  have hshared := hgot.andThen (hgot.serves.gains_same hs hr)
  have htakes := (h.takes hroom kind happ hnumber).sameReservoirs hr
  have hlive := (hr.liveRef? kind app).trans (s.liveRef?_getOrCreate kind app)
  obtain ⟨haccepted, hoffer⟩ := hshared.serves.gains_offer label hlive htakes event
  exact ⟨haccepted, hshared.andThen hoffer⟩

section Record

variable [HasPriority E]

/-- A service after an event has been recorded whose priority is known. -/
def taking (s : Service E) (app : String) (work : Work E) : Service E :=
  let priority := HasPriority.priority work.event
  if work.isSynthetic then
    let (ref, s) := (s.internAt s.namesVersion work.name).getOrCreate .synthetic app
    (s.offer ref priority work.event).2
  else
    let (ref, s) := s.getOrCreate .ordinary app
    ((s.internAt s.namesVersion work.name).offer ref priority work.event).2

/-- **Recording** adds the event, as long as there is room. -/
theorem Serves.gains_taking (h : s.Serves apps N) (hroom : (s.holding label 0).card < N)
    (happ : app ∈ apps) (work : Work E)
    (hnumber : Double.isNumber (HasPriority.priority work.event)) :
    Gains label apps N s (s.taking app work) {(label work.kind.service, app, work.event)} := by
  unfold taking Work.kind
  simp only
  split
  · have hshared : Gains label apps N s (s.internAt s.namesVersion work.name) 0 :=
      h.gains_same (s.sameSettings_internAt _ _) (s.sameReservoirs_internAt _ _)
    exact hshared.andThen (hshared.serves.gains_compete (hshared.room hroom) .synthetic happ
      hnumber work.event (.refl _) (.refl _)).2
  · exact (h.gains_compete hroom .ordinary happ hnumber work.event
      (sameSettings_internAt _ _ _) (sameReservoirs_internAt _ _ _)).2

end Record

/-! ### Harvesting -/

/-- The batches of a reservoir that has been swapped out: none if there is nothing in it. -/
def batches (s : Service E) (kind : Kind) (swapped : Option Ref) : List (Kind × Batch E) :=
  match swapped with
  | some ref => if (s.reservoir ref).isEmpty then [] else [(kind, s.batch ref)]
  | none => []

theorem batches_of_isEmpty {ref : Ref} (h : (s.reservoir ref).isEmpty = true) (kind : Kind) :
    s.batches kind (some ref) = [] := if_pos h

theorem batches_of_held {ref : Ref} (h : (s.reservoir ref).isEmpty = false) (kind : Kind) :
    s.batches kind (some ref) = [(kind, s.batch ref)] :=
  if_neg (by rw [h]; exact Bool.false_ne_true)

/-- A harvest sends one batch of a kind at most. -/
theorem reverse_batches (s : Service E) (kind : Kind) (swapped : Option Ref) :
    (s.batches kind swapped).reverse = s.batches kind swapped := by
  cases swapped with
  | none => rfl
  | some ref =>
    cases hempty : (s.reservoir ref).isEmpty with
    | true => rw [batches_of_isEmpty hempty, List.reverse_nil]
    | false => rw [batches_of_held hempty, List.reverse_singleton]

/-- The events of some batches, as parcels. -/
def parcelsOf (label : String → T) (batches : List (Kind × Batch E)) :
    Multiset (T × String × E) :=
  (batches.map fun b => b.2.parcels label b.1).sum

theorem parcelsOf_append (batches batches' : List (Kind × Batch E)) :
    parcelsOf label (batches ++ batches') = parcelsOf label batches + parcelsOf label batches' := by
  rw [parcelsOf, List.map_append, List.sum_append]
  rfl

theorem parcelsOf_reverse (batches : List (Kind × Batch E)) :
    parcelsOf label batches.reverse = parcelsOf label batches := by
  rw [parcelsOf, List.map_reverse, List.sum_reverse]
  rfl

/-- No event is held in the live reservoir of an application. -/
def IsBare (s : Service E) (kind : Kind) (app : String) : Prop :=
  ∀ ref, s.liveRef? kind app = some ref → (s.reservoir ref).retained = 0

theorem IsBare.same {kind : Kind} (h : s.IsBare kind app) (hr : s.SameReservoirs s') :
    s'.IsBare kind app := fun ref hlive => by
  rw [hr.reservoir]
  exact h ref ((hr.liveRef? kind app).symm.trans hlive)

theorem liveRef?_swapOut (s : Service E) (kind kind' : Kind) (app app' : String) :
    (s.swapOut kind app).2.liveRef? kind' app' =
      if kind' = kind ∧ app' = app then some s.pool.size else s.liveRef? kind' app' := by
  have hinstall := s.liveRef?_install kind kind' app app' (s.liveTries kind app)
  cases hlive : s.liveRef? kind app with
  | none => rwa [swapOut_snd_of_none hlive]
  | some ref => rwa [swapOut_snd_of_some hlive]

/-- What a swap makes live is new. -/
theorem Sound.reservoir_swapOut_self {aside : Multiset Ref} (h : s.Sound aside) (kind : Kind)
    (app : String) : (s.swapOut kind app).2.reservoir s.pool.size =
      s.freshReservoir kind app (s.liveTries kind app) := by
  cases hlive : s.liveRef? kind app with
  | none => rw [swapOut_snd_of_none hlive, reservoir_install_self]
  | some ref =>
    have hne : s.pool.size ≠ ref := Nat.ne_of_gt (h.live hlive).lt
    rw [swapOut_snd_of_some hlive, reservoir_modify_of_ne _ hne, reservoir_install_self]

/-- A swap leaves the live reservoirs of others alone. -/
theorem Sound.reservoir_swapOut {aside : Multiset Ref} (h : s.Sound aside) {kind kind' : Kind}
    {app app' : String} (hne : ¬ (kind' = kind ∧ app' = app)) {ref : Ref}
    (hlive : s.liveRef? kind' app' = some ref) :
    (s.swapOut kind app).2.reservoir ref = s.reservoir ref := by
  have hb := h.live hlive
  cases hprevious : s.liveRef? kind app with
  | none => rw [swapOut_snd_of_none hprevious, reservoir_install hb.lt]
  | some previous =>
    have hother : ref ≠ previous := by
      rintro rfl
      exact hne (hb.unique (h.live hprevious))
    rw [swapOut_snd_of_some hprevious, reservoir_modify_of_ne _ hother, reservoir_install hb.lt]

theorem Serves.swapOut (h : s.Serves apps N) (kind : Kind) (happ : app ∈ apps) :
    (s.swapOut kind app).2.Serves apps N := by
  have hsound := h.sound.swapOut kind app
  refine h.grows (s.sameSettings_swapOut kind app)
    (hsound.mono (Multiset.le_add_right _ _)) (congrArg Backlog.queue (s.backlog_swapOut kind app))
    (s.grows_swapOut (fun _ => False) kind app) fun {kind' app' ref} hr => ?_
  rw [liveRef?_swapOut] at hr
  split at hr
  next hsame =>
    obtain rfl := Option.some.inj hr
    rw [hsame.2, h.sound.reservoir_swapOut_self]
    exact .inr ⟨happ, h.fresh app happ kind _⟩
  next => exact .inl hr

variable (label) in
/-- **A swap moves what was live into a batch.** -/
theorem Serves.holding_swapOut (h : s.Serves apps N) (kind : Kind) (app : String) :
    (s.swapOut kind app).2.holding label 0 +
        parcelsOf label ((s.swapOut kind app).2.batches kind (s.swapOut kind app).1) =
      s.holding label 0 := by
  have hholding := h.sound.holding_swapOut label kind app
  have hgrows := s.grows_swapOut (fun _ => False) kind app
  rw [holding_add] at hholding
  rw [swapOut_fst, ← hholding]
  congr 1
  cases hlive : s.liveRef? kind app with
  | none => rfl
  | some ref =>
    have hb := (h.sound.live hlive).grows hgrows
    change _ = (s.swapOut kind app).2.stock label {ref}
    cases hempty : ((s.swapOut kind app).2.reservoir ref).isEmpty with
    | true =>
      rw [batches_of_isEmpty hempty, stock_singleton, Sampling.Reservoir.parcels,
        Sampling.Reservoir.isEmpty_iff.1 hempty]
      rfl
    | false =>
      rw [batches_of_held hempty, parcelsOf, List.map_singleton, List.sum_singleton]
      exact hb.parcels_batch label

theorem Serves.isBare_swapOut (h : s.Serves apps N) {kind kind' : Kind} {app app' : String}
    (hbare : kind' = kind ∧ app' = app ∨ s.IsBare kind' app') :
    (s.swapOut kind app).2.IsBare kind' app' := by
  intro ref hlive
  rw [liveRef?_swapOut] at hlive
  split at hlive
  next =>
    obtain rfl := Option.some.inj hlive
    rw [h.sound.reservoir_swapOut_self]
    rfl
  next hne =>
    rw [h.sound.reservoir_swapOut hne hlive]
    exact hbare.resolve_left hne ref hlive

/-- A service after the harvest of an application, and the batches that were sent. -/
def harvested (s : Service E) (app : String) : List (Kind × Batch E) × Service E :=
  let (synthetic, s₁) := s.swapOut .synthetic app
  let (ordinary, s₂) := (s₁.askEnabled app).2.swapOut .ordinary app
  (s₁.batches .synthetic synthetic ++ s₂.batches .ordinary ordinary, s₂)

/-- **A harvest** of an application sends all that is held for it, and nothing else is lost. -/
theorem Serves.harvested (h : s.Serves apps N) (happ : app ∈ apps) :
    (s.harvested app).2.Serves apps N ∧
      (s.harvested app).2.holding label 0 + parcelsOf label (s.harvested app).1 =
        s.holding label 0 ∧
      ∀ kind app', app' = app ∨ s.IsBare kind app' → (s.harvested app).2.IsBare kind app' := by
  have hfirst := h.swapOut .synthetic happ
  have hasked : Gains label apps N (s.swapOut .synthetic app).2
      ((s.swapOut .synthetic app).2.askEnabled app).2 0 := hfirst.gains_askEnabled app
  have hsame := (s.swapOut .synthetic app).2.sameReservoirs_askEnabled app
  refine ⟨hasked.serves.swapOut .ordinary happ, ?_, fun kind app' hbare => ?_⟩
  · have hheld := hasked.holding
    have hsynthetic := h.holding_swapOut label .synthetic app
    have hordinary := hasked.serves.holding_swapOut label .ordinary app
    rw [← hsynthetic, ← Multiset.add_zero ((s.swapOut .synthetic app).2.holding label 0), ← hheld,
      ← hordinary]
    unfold Service.harvested
    simp only [parcelsOf_append]
    abel
  · refine hasked.serves.isBare_swapOut ?_
    cases kind with
    | ordinary =>
      refine hbare.imp (fun happ' => ⟨rfl, happ'⟩) fun hbare' => IsBare.same ?_ hsame
      exact h.isBare_swapOut (.inr hbare')
    | synthetic =>
      exact .inr (IsBare.same (h.isBare_swapOut (hbare.imp_left fun happ' => ⟨rfl, happ'⟩)) hsame)

/-- Nothing is held if nothing is held for any of the applications. -/
theorem Serves.holding_eq_zero (h : s.Serves apps N)
    (hbare : ∀ kind, ∀ app ∈ apps, s.IsBare kind app) : s.holding label 0 = 0 := by
  have hzero : s.stock label s.live.all = (s.live.all).bind fun _ => 0 := by
    refine Multiset.bind_congr fun ref hm => ?_
    obtain ⟨kind, app, hlive⟩ := Store.mem_all_iff.1 hm
    rw [Sampling.Reservoir.parcels, hbare kind app (h.live hlive).1 ref hlive]
    rfl
  rw [holding, Multiset.add_zero, hzero, Multiset.bind_zero]

end Service

end Telemetry.Events
