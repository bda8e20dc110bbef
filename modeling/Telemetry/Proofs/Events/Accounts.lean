import Telemetry.Proofs.Events.Lossless

/-!
# What a run holds for an application

Between the steps at the top of a run, nothing is on its way and nothing is being sent. The
events of an application are then in its two live reservoirs, in its waiting batches, and in its
delivered batches (`Run.heldFor`).

`Run.heldFor_eq_recorded` is **the account of a calm run**: these are exactly the events recorded
for the application, and the tries of its delivered ordinary batches together with those of its
live ordinary reservoir are exactly its ordinary record calls.
-/

namespace Telemetry.Events

open Sampling (HasPriority)

variable {E P S T : Type} {N : Nat}

/-! ### Parcels of one application -/

/-- The events among some parcels that are for an application, and whose label passes a test. -/
def among (app : String) (test : T → Bool) (parcels : Multiset (T × String × E)) : Multiset E :=
  (parcels.filter fun p => p.2.1 = app ∧ test p.1).map fun p => p.2.2

section Among

variable {label : String → T} {app : String} {test : T → Bool}

theorem among_add (parcels parcels' : Multiset (T × String × E)) :
    among app test (parcels + parcels') = among app test parcels + among app test parcels' := by
  rw [among, Multiset.filter_add, Multiset.map_add]
  rfl

/-- Parcels that all have one label and one application. -/
theorem among_map (events : Multiset E) (l : T) (app' : String) :
    among app test (events.map fun e => (l, app', e)) =
      if app' = app ∧ test l then events else 0 := by
  rw [among, Multiset.filter_map, Multiset.map_map]
  split
  next h => simp [h]
  next h => simp [h]

theorem among_parcels (r : Sampling.Reservoir E) :
    among app test (r.parcels label) =
      if r.app = app ∧ test (label r.service) then r.retained else 0 :=
  among_map _ _ _

theorem among_stock (s : Service E) (refs : Multiset Ref) :
    among app test (s.stock label refs) = refs.bind fun ref =>
      if (s.reservoir ref).app = app ∧ test (label (s.reservoir ref).service)
        then (s.reservoir ref).retained else 0 := by
  rw [among, Service.stock, Multiset.filter_bind, Multiset.map_bind]
  exact Multiset.bind_congr fun ref _ => among_parcels _

theorem among_begun (calls : List (String × Work E)) :
    among app test (Run.begun label calls) = ((calls.filter fun c =>
      c.1 = app ∧ test (label c.2.kind.service)).map fun c => c.2.event : List E) := by
  rw [among, Run.begun, Multiset.filter_coe, Multiset.map_coe, List.filter_map, List.map_map]
  rfl

end Among

/-! ### Live reservoirs -/

/-- The events in a live reservoir of an application. -/
def Service.liveEvents (s : Service E) (kind : Kind) (app : String) : Multiset E :=
  match s.liveRef? kind app with
  | some ref => (s.reservoir ref).retained
  | none => 0

/-- Of all live reservoirs of a kind, only its own holds events of an application. -/
theorem Service.Sound.among_live {s : Service E} {aside : Multiset Ref} (h : s.Sound aside)
    (label : String → T) (test : T → Bool) (kind : Kind) (app : String) :
    among app test (s.stock label ((s.live.ofKind kind).values : Multiset Ref)) =
      if test (label kind.service) then s.liveEvents kind app else 0 := by
  have hsplit := (s.live.ofKind kind).values_erase app
  have hothers : ∀ ref ∈ (((s.live.ofKind kind).erase app).values : Multiset Ref),
      (s.reservoir ref).app ≠ app := by
    intro ref hm
    obtain ⟨key, hkey⟩ := Dict.mem_values_iff.1 (Multiset.mem_coe.1 hm)
    rw [Dict.get?_erase] at hkey
    split at hkey
    · nomatch hkey
    next hne =>
      have hlive : s.liveRef? kind key = some ref := hkey
      rw [(h.live hlive).app]
      exact hne
  -- the live reservoirs of the others hold nothing for the application
  have hnone : among app test (s.stock label ((s.live.ofKind kind).erase app).values) = 0 := by
    rw [among_stock]
    refine (Multiset.bind_congr fun ref hm => ?_).trans (Multiset.bind_zero _)
    rw [if_neg]
    exact fun hcon => hothers ref hm hcon.1
  have hget : (s.live.ofKind kind).get? app = s.liveRef? kind app := rfl
  rw [← hsplit, stock_add, among_add, hnone, Multiset.zero_add, hget, liveEvents]
  cases hr : s.liveRef? kind app with
  | none =>
    rw [ite_self]
    rfl
  | some ref =>
    have hb := h.live hr
    change among app test (s.stock label {ref}) = _
    rw [stock_singleton, among_parcels, hb.app, hb.service]
    simp

/-! ### Between the steps at the top -/

namespace Run

/-- Nothing is left to be done but steps at the top. -/
def AtRest (r : Run E P S) : Prop := r.stack = [] ∨ ∃ steps, r.stack = [.steps steps]

/-- The reservoirs that wait and belong to an application. -/
def waitingFor (r : Run E P S) (app : String) : Multiset Ref :=
  (r.service.backlog.queue : Multiset Ref).filter fun ref => (r.service.reservoir ref).app = app

/-- The batches delivered for an application. -/
def deliveredFor (r : Run E P S) (app : String) : Multiset (Kind × Batch E) :=
  (r.delivered : Multiset (Kind × Batch E)).filter fun b => b.2.app = app

/-- **What a run holds for an application** between the steps at the top: in its live
reservoirs, in its waiting batches, and in its delivered batches. -/
def heldFor (r : Run E P S) (app : String) : Multiset E :=
  r.service.liveEvents .ordinary app + r.service.liveEvents .synthetic app +
    (r.waitingFor app).bind (fun ref => (r.service.reservoir ref).retained) +
    (r.deliveredFor app).bind fun b => b.2.events

variable {label : String → T} {app : String} {test : T → Bool} {r : Run E P S}

theorem among_delivered (delivered : List (Kind × Batch E)) :
    among app test (delivered.map fun b => b.2.parcels label b.1).sum =
      (delivered : Multiset (Kind × Batch E)).bind fun b =>
        if b.2.app = app ∧ test (label b.1.service) then (b.2.events : Multiset E) else 0 := by
  induction delivered with
  | nil => rfl
  | cons b rest ih =>
    rw [List.map_cons, List.sum_cons, among_add, ih, ← Multiset.cons_coe, Multiset.cons_bind]
    congr 1
    exact among_map _ _ _

/-- Waiting reservoirs are synthetic. -/
theorem Sound.among_waiting (hs : r.Sound 0) :
    among app test (r.service.stock label r.service.backlog.queue) =
      if test (label Kind.synthetic.service)
        then (r.waitingFor app).bind fun ref => (r.service.reservoir ref).retained else 0 := by
  rw [among_stock, waitingFor, Multiset.bind_filter]
  split
  next htest =>
    refine Multiset.bind_congr fun ref hm => ?_
    obtain ⟨owner, hb⟩ := hs.waiting ref hm
    rw [hb.service]
    simp [htest]
  next htest =>
    refine (Multiset.bind_congr fun ref hm => ?_).trans (Multiset.bind_zero _)
    obtain ⟨owner, hb⟩ := hs.waiting ref hm
    rw [hb.service]
    simp [htest]

/-- The events of a run at rest, place by place. -/
theorem Sound.among_total (hs : r.Sound 0) (label : String → T) (app : String) (test : T → Bool)
    (hrest : r.AtRest) :
    among app test (r.total label 0) =
      (if test (label Kind.ordinary.service) then r.service.liveEvents .ordinary app else 0) +
      (if test (label Kind.synthetic.service) then r.service.liveEvents .synthetic app else 0) +
      (if test (label Kind.synthetic.service)
        then (r.waitingFor app).bind fun ref => (r.service.reservoir ref).retained else 0) +
      (r.delivered : Multiset (Kind × Batch E)).bind fun b =>
        if b.2.app = app ∧ test (label b.1.service) then (b.2.events : Multiset E) else 0 := by
  -- at rest nothing is being sent, and no event is on its way
  have haside : r.aside = r.service.backlog.queue := by
    rw [aside, flights]
    rcases hrest with h | ⟨steps, h⟩ <;> (rw [h]; exact Multiset.add_zero _)
  have hpending : (r.stack.map (Frame.pending label)).sum = 0 := by
    rcases hrest with h | ⟨steps, h⟩ <;> (rw [h]; rfl)
  rw [total, hpending, Multiset.add_zero, Multiset.add_zero, haside, Service.holding, Store.all,
    Service.stock_add, Service.stock_add, among_add, among_add, among_add, among_delivered,
    hs.among_waiting]
  congr 3
  · exact hs.service.among_live label test .ordinary app
  · exact hs.service.among_live label test .synthetic app

/-! ### Settings with room -/

end Run

end Telemetry.Events

namespace Telemetry.Config

/-- **Settings under which everything is collected**, with room for `N` events everywhere. -/
structure Settings.HasRoom (N : Nat) (settings : Settings) : Prop where
  enabled : settings.transactionEvents.enabled
  enabled_forApp : ∀ app, (settings.forApp app).enabled
  ordinary : ∀ app, N ≤ (settings.forApp app).maxSamplesStored
  synthetic : N ≤ settings.harvest.synthetics.maxEventsPerApp
  backlog : N ≤ settings.harvest.synthetics.maxPendingBatches

end Telemetry.Config

namespace Telemetry.Events

open Sampling (HasPriority)

variable {E P S T : Type} {N : Nat}

theorem Service.isCalm_create {settings : Config.Settings} (h : settings.HasRoom N) :
    (Service.create settings : Service E × List (Note E)).1.IsCalm N := by
  refine ⟨⟨?_, fun app => ?_, fun app hcon => (nomatch hcon), fun kind app decidedLast => ?_,
    h.backlog⟩, fun ref hlt => absurd hlt (Nat.not_lt_zero ref)⟩
  · change (settings.transactionEvents.enabled && !false) = true
    rw [h.enabled]
    rfl
  · rw [Service.appSettings_create]
    exact h.enabled_forApp app
  · cases kind with
    | ordinary =>
      change N ≤ (Service.appSettings _ app).maxSamplesStored
      rw [Service.appSettings_create]
      exact h.ordinary app
    | synthetic => exact h.synthetic

namespace Run

section Account

variable [HasPriority E] {settings : Config.Settings} {transport : Transport E Empty}
  {steps : List (Step E Empty)}

theorem isCalm_fresh (hroom : settings.HasRoom N) (htransport : transport.IsPassing)
    (hsteps : ∀ s ∈ steps, s.Collects) (random : Random.Source) :
    (fresh settings transport steps random).IsCalm N := by
  refine ⟨Service.isCalm_create hroom, fun f hf => ?_, fun ref hm => ?_, htransport, fun b hb => ?_⟩
  · obtain rfl := List.mem_singleton.1 hf
    exact hsteps
  · exact absurd hm List.not_mem_nil
  · exact absurd hb List.not_mem_nil

omit [HasPriority E] in
/-- Only the kinds of records that are not synthetic are labelled as ordinary. -/
theorem decide_ordinary (work : Work E) :
    decide (work.kind.service = Kind.ordinary.service) = !work.isSynthetic := by
  rw [Work.kind]
  cases work.isSynthetic <;> decide

/-- The tries of the ordinary batches delivered for an application. -/
def triesDelivered (r : Run E P S) (app : String) : Nat :=
  (((r.deliveredFor app).filter fun b => b.1 = .ordinary).map fun b => b.2.tries).sum

omit [HasPriority E] in
/-- If delivered batches count a try for each event, tries can be counted off the events. -/
theorem card_delivered {r : Run E P S} (h : ∀ b ∈ r.delivered, b.2.tries = b.2.events.length)
    (app : String) :
    ((r.delivered : Multiset (Kind × Batch E)).bind fun b =>
      if b.2.app = app ∧ decide (b.1.service = Kind.ordinary.service)
        then (b.2.events : Multiset E) else 0).card = r.triesDelivered app := by
  rw [← Multiset.bind_filter, Multiset.card_bind, triesDelivered, deliveredFor,
    Multiset.filter_filter]
  congr 1
  have hfilter : (r.delivered : Multiset (Kind × Batch E)).filter (fun b =>
      b.2.app = app ∧ decide (b.1.service = Kind.ordinary.service)) =
      (r.delivered : Multiset (Kind × Batch E)).filter
        fun b => b.1 = .ordinary ∧ b.2.app = app := by
    refine Multiset.filter_congr fun b _ => ?_
    rw [and_comm, decide_eq_true_iff]
    exact and_congr_left fun _ => ⟨Kind.service_injective, congrArg Kind.service⟩
  rw [hfilter]
  refine Multiset.map_congr rfl fun b hb => ?_
  exact (h b (Multiset.mem_coe.1 (Multiset.mem_of_mem_filter hb))).symm

theorem IsCalm.liveTries_eq {r : Run E P S} (h : r.IsCalm N) (hs : r.Sound 0) (app : String) :
    r.service.liveTries .ordinary app = (r.service.liveEvents .ordinary app).card := by
  rw [Service.liveTries, Service.liveEvents]
  cases hr : r.service.liveRef? .ordinary app with
  | none => rfl
  | some ref =>
    have htries := (h.service.pool ref (hs.service.live hr).lt).tries
    exact htries.trans (Sampling.Reservoir.card_retained _).symm

/-- **Nothing is lost while there is room.** Take a run of records and harvests whose sends fail
in passing at worst, under settings with room for all that it records. Between the steps at the
top, an application has exactly the events recorded for it in its live reservoirs, its waiting
batches and its delivered batches; and the tries of its delivered ordinary batches and of its
live ordinary reservoir are exactly its ordinary record calls. -/
theorem heldFor_eq_recorded (settings : Config.Settings) (transport : Transport E Empty)
    (steps : List (Step E Empty)) (random : Random.Source) (n : Nat)
    (hroom : settings.HasRoom
      ((fresh settings transport steps random).recorded (.idle E) n).length)
    (htransport : transport.IsPassing) (hsteps : ∀ s ∈ steps, s.Collects)
    (hrest : ((fresh settings transport steps random).advance (.idle E) n).AtRest)
    (app : String) :
    let r := (fresh settings transport steps random).advance (.idle E) n
    let calls := (fresh settings transport steps random).recorded (.idle E) n
    r.heldFor app = ((calls.filter fun c => c.1 = app).map fun c => c.2.event : List E) ∧
      r.triesDelivered app + r.service.liveTries .ordinary app =
        (calls.filter fun c => c.1 = app ∧ !c.2.isSynthetic).length := by
  intro r calls
  have hbound : ((fresh settings transport steps random).total id 0).card + calls.length ≤
      calls.length := by
    rw [total_fresh, Multiset.card_zero, Nat.zero_add]
  obtain ⟨hcalm, hkept⟩ := (isCalm_fresh hroom htransport hsteps random).advance
    (sound_fresh settings transport steps random) n hbound
  have htotal := hkept.total_eq
  rw [total_fresh, Multiset.zero_add] at htotal
  have hplaces := fun test : String → Bool =>
    hkept.sound.among_total id app test hrest
  refine ⟨?_, ?_⟩
  -- events of both kinds count as held
  · have hall := hplaces fun _ => true
    rw [htotal, among_begun] at hall
    simp only [and_true, if_true] at hall
    rw [heldFor, deliveredFor, Multiset.bind_filter]
    exact hall.symm
  -- tries are counted off the ordinary events, of which there is one for each try
  · have hordinary := congrArg Multiset.card (hplaces fun l => decide (l = Kind.ordinary.service))
    have hsynthetic : ¬ Kind.synthetic.service = Kind.ordinary.service := fun hcon =>
      nomatch Kind.service_injective hcon
    rw [htotal, among_begun] at hordinary
    simp only [id, decide_ordinary, hsynthetic, decide_true, decide_false, Bool.false_eq_true,
      if_true, if_false, Multiset.add_zero] at hordinary
    rw [Multiset.card_add, card_delivered hcalm.delivered, Multiset.coe_card, List.length_map]
      at hordinary
    rw [hcalm.liveTries_eq hkept.sound, Nat.add_comm]
    exact hordinary.symm

end Account

theorem collects_transaction (app name : String) (priority : Float)
    (h : Double.isNumber priority) :
    (Step.record app (transaction name priority) [] [] : Step Simulation.Event Empty).Collects := by
  refine .record rfl h (fun s hm => absurd hm List.not_mem_nil)
    (fun s hm => absurd hm List.not_mem_nil) fun turn hturn s hm => ?_
  obtain rfl := List.mem_singleton.1 hturn
  exact absurd hm List.not_mem_nil

theorem heldFor_retriedRun :
    (retriedRun.advance (.idle _) 40).heldFor "a" =
      (((retriedRun.recorded (.idle _) 40).filter fun c => c.1 = "a").map fun c => c.2.event :
        List Simulation.Event) := by
  have hlength : (retriedRun.recorded (.idle _) 40).length = 3 := by decide +kernel
  have hroom : Config.Settings.HasRoom (retriedRun.recorded (.idle _) 40).length {} := by
    rw [hlength]
    have hordinary : 3 ≤ 2000 := by decide
    exact ⟨rfl, fun _ => rfl, fun _ => hordinary, by decide, by decide⟩
  have hidle : (retriedRun.advance (.idle _) 40).stack = [] :=
    List.eq_nil_of_length_eq_zero (by decide +kernel)
  have ha := collects_transaction "a" "a" 0.5 (by decide +kernel)
  have hb := collects_transaction "a" "b" 0.75 (by decide +kernel)
  have hc := collects_transaction "a" "c" 0.25 (by decide +kernel)
  refine (heldFor_eq_recorded _ _ _ _ 40 hroom ⟨?_, ?_⟩ ?_ (.inl hidle) "a").1
  · intro reply hreply
    obtain rfl := List.mem_singleton.1 hreply
    refine ⟨fun error herror => ?_, fun s hm => ?_⟩
    · obtain rfl := Option.some.inj herror
      rfl
    · obtain rfl := List.mem_singleton.1 hm
      exact hc
  · exact fun error herror => nomatch herror
  · intro s hm
    simp only [List.mem_cons, List.not_mem_nil, or_false] at hm
    rcases hm with rfl | rfl | rfl | rfl
    · exact ha
    · exact hb
    · exact .harvest "a"
    · exact .harvest "a"

end Run

end Telemetry.Events
