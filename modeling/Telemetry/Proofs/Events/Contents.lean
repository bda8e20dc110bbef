import Telemetry.Proofs.Events.Ownership
import Mathlib.Data.Multiset.Bind

/-!
# What several reservoirs hold together

The events of a reservoir are its *parcels*: each one goes with the application it was
recorded for, and with a label made of the kind of its reservoir – one that tells the kinds
apart, or one that does not. What the service holds, `Service.holding`, are the parcels of
its live reservoirs and of those set aside.

Every operation of the service has one equation here, of the shape

  `holding afterwards + lost = holding before + what was brought in`

for some `lost`, which is empty under conditions that the equation comes with. The reason is
the same each time: no reservoir has two owners, so a change of one reservoir
(`Service.stock_modify`) is a change of one summand.
-/

namespace Telemetry

namespace Sampling.Reservoir

variable {E T : Type} (label : String → T)

/-- An event as a parcel of a reservoir. -/
def parcel (r : Reservoir E) (event : E) : T × String × E := (label r.service, r.app, event)

/-- The retained events, as parcels. -/
def parcels (r : Reservoir E) : Multiset (T × String × E) := r.retained.map (r.parcel label)

variable {label}

@[simp] theorem card_parcels (r : Reservoir E) : (r.parcels label).card = r.size := by
  rw [parcels, Multiset.card_map, card_retained]

theorem parcel_of_shell {r r' : Reservoir E} (h : r'.shell = r.shell) :
    r'.parcel label = r.parcel label := by
  funext event
  rw [parcel, parcel, show r'.app = r.app from congrArg (·.1) h,
    show r'.service = r.service from congrArg (·.2.1) h]

/-- An equation about what is retained is one about parcels. -/
theorem parcels_add {r r' : Reservoir E} {lost brought : Multiset E} (hshell : r'.shell = r.shell)
    (h : r'.retained + lost = r.retained + brought) :
    r'.parcels label + lost.map (r.parcel label) =
      r.parcels label + brought.map (r.parcel label) := by
  rw [parcels, parcels, parcel_of_shell hshell, ← Multiset.map_add, h, Multiset.map_add]

theorem parcels_congr {r r' : Reservoir E} (hshell : r'.shell = r.shell)
    (h : r'.retained = r.retained) : r'.parcels label = r.parcels label := by
  rw [parcels, parcels, parcel_of_shell hshell, h]

@[simp] theorem parcels_empty (app service : String) (capacity decidedLast target : Nat) :
    (empty app service capacity decidedLast target : Reservoir E).parcels label = 0 := rfl

@[simp] theorem parcels_drained (r : Reservoir E) : r.drained.parcels label = 0 := rfl

@[simp] theorem parcels_clear (r : Reservoir E) : r.clear.parcels label = 0 := rfl

@[simp] theorem parcels_sealed (r : Reservoir E) : r.sealed.parcels label = r.parcels label := rfl

theorem parcels_countTry (r : Reservoir E) : r.countTry.2.parcels label = r.parcels label :=
  parcels_congr r.shell_countTry r.retained_countTry

/-- What an offer brings in: the event, if it is accepted. -/
def accepted (decision : Offer E) (parcel : T × String × E) : Multiset (T × String × E) :=
  if decision = .accepted then {parcel} else 0

@[simp] theorem accepted_accepted (parcel : T × String × E) :
    accepted .accepted parcel = {parcel} :=
  rfl

@[simp] theorem accepted_rejected (event : E) (parcel : T × String × E) :
    accepted (.rejected event) parcel = 0 :=
  rfl

@[simp] theorem accepted_closed (event : E) (parcel : T × String × E) :
    accepted (.closed event) parcel = 0 :=
  rfl

variable (label) in
/-- **An offer** adds the event if it is accepted, and drops none if it is refused or there
is room. -/
theorem parcels_offer (r : Reservoir E) (priority : Float) (event : E) :
    ∃ lost, (r.offer priority event).2.parcels label + lost =
        r.parcels label + accepted (r.offer priority event).1 (r.parcel label event) ∧
      (r.isSealed ∨ r.size < r.capacity → lost = 0) := by
  rcases r.offer_cases priority event with ⟨-, h⟩ | ⟨hopen, -, h⟩ | ⟨-, -, h⟩
  · exact ⟨0, by rw [h]; rfl, fun _ => rfl⟩
  · obtain ⟨lost, hlost, hroom⟩ := r.tried.retained_insert priority event
    refine ⟨lost.map (r.parcel label), ?_, fun hor => ?_⟩
    · rw [h]
      have hadd : (r.tried.insert priority event).2.retained + lost = r.retained + {event} := by
        rw [hlost, retained_tried, Multiset.add_comm, Multiset.singleton_add]
      exact parcels_add (shell_insert r.tried priority event) hadd
    · have hlt := hor.resolve_left (by rw [hopen]; exact Bool.false_ne_true)
      rw [hroom hlt, Multiset.map_zero]
  · exact ⟨0, by rw [h]; rfl, fun _ => rfl⟩

/-- **Merging** two reservoirs for the same events joins their parcels, and drops none as
long as there is room. -/
theorem parcels_merge {r other : Reservoir E} (h : other.parcel label = r.parcel label) :
    ∃ lost, (r.merge other).parcels label + lost = r.parcels label + other.parcels label ∧
      (r.size + other.size ≤ r.capacity → lost = 0) := by
  obtain ⟨lost, hlost, hroom⟩ := r.retained_merge other
  refine ⟨lost.map (r.parcel label), ?_, fun hle => by rw [hroom hle, Multiset.map_zero]⟩
  rw [parcels_add (r.shell_merge other) hlost, parcels, parcels, h]

end Sampling.Reservoir

namespace Events.Service

open Sampling (Reservoir Offer)
open Sampling.Reservoir (accepted)

variable {E T : Type} (label : String → T)

/-- The parcels of several reservoirs of the pool. -/
def stock (s : Service E) (refs : Multiset Ref) : Multiset (T × String × E) :=
  refs.bind fun ref => (s.reservoir ref).parcels label

/-- **What the service holds**: the parcels of its live reservoirs and of those set aside. -/
def holding (s : Service E) (aside : Multiset Ref) : Multiset (T × String × E) :=
  s.stock label (s.live.all + aside)

variable {label}

/-! ### Stock -/

@[simp] theorem stock_zero (s : Service E) : s.stock label 0 = 0 := rfl

@[simp] theorem stock_cons (s : Service E) (ref : Ref) (refs : Multiset Ref) :
    s.stock label (ref ::ₘ refs) = (s.reservoir ref).parcels label + s.stock label refs :=
  Multiset.cons_bind ..

@[simp] theorem stock_add (s : Service E) (refs refs' : Multiset Ref) :
    s.stock label (refs + refs') = s.stock label refs + s.stock label refs' :=
  Multiset.add_bind ..

@[simp] theorem stock_singleton (s : Service E) (ref : Ref) :
    s.stock label {ref} = (s.reservoir ref).parcels label :=
  Multiset.singleton_bind ..

theorem stock_congr {s s' : Service E} {refs : Multiset Ref}
    (h : ∀ ref ∈ refs, (s'.reservoir ref).parcels label = (s.reservoir ref).parcels label) :
    s'.stock label refs = s.stock label refs :=
  Multiset.bind_congr h

theorem stock_modify_of_notMem (s : Service E) {ref : Ref} {refs : Multiset Ref}
    (h : ref ∉ refs) (f : Reservoir E → Reservoir E) :
    (s.modify ref f).stock label refs = s.stock label refs := by
  refine stock_congr fun ref' hm => ?_
  have hne : ref' ≠ ref := fun heq => h (heq ▸ hm)
  rw [s.reservoir_modify_of_ne hne]

variable (label) in
/-- **A change of one reservoir is a change of one summand.** -/
theorem stock_modify {s : Service E} {ref : Ref} {refs : Multiset Ref} (hn : refs.Nodup)
    (hm : ref ∈ refs) (hlt : ref < s.pool.size) (f : Reservoir E → Reservoir E) :
    (s.modify ref f).stock label refs + (s.reservoir ref).parcels label =
      s.stock label refs + (f (s.reservoir ref)).parcels label := by
  obtain ⟨others, rfl⟩ := Multiset.exists_cons_of_mem hm
  have hnot : ref ∉ others := (Multiset.nodup_cons.1 hn).1
  rw [stock_cons, stock_cons, stock_modify_of_notMem s hnot, reservoir_modify_self hlt]
  abel

/-- A change of one reservoir that keeps its parcels. -/
theorem stock_modify_same (s : Service E) (ref : Ref) (refs : Multiset Ref)
    {f : Reservoir E → Reservoir E} (h : ∀ r : Reservoir E, (f r).parcels label = r.parcels label) :
    (s.modify ref f).stock label refs = s.stock label refs := by
  refine stock_congr fun ref' _ => ?_
  by_cases heq : ref' = ref
  · subst heq
    rcases Nat.lt_or_ge ref' s.pool.size with hlt | hge
    · rw [reservoir_modify_self hlt, h]
    · simp [reservoir, modify, hge]
  · rw [s.reservoir_modify_of_ne heq]

theorem stock_le {s : Service E} {refs refs' : Multiset Ref} (h : refs ≤ refs') :
    ∃ lost, s.stock label refs + lost = s.stock label refs' := by
  obtain ⟨others, rfl⟩ := Multiset.le_iff_exists_add.1 h
  exact ⟨s.stock label others, (stock_add ..).symm⟩

/-! ### The operations -/

theorem holding_add (s : Service E) (aside aside' : Multiset Ref) :
    s.holding label (aside + aside') = s.holding label aside + s.stock label aside' := by
  rw [holding, holding, ← Multiset.add_assoc, stock_add]

theorem SameReservoirs.holding {s s' : Service E} (h : s.SameReservoirs s')
    (aside : Multiset Ref) : s'.holding label aside = s.holding label aside := by
  rw [Service.holding, h.live]
  exact stock_congr fun ref _ => by rw [h.reservoir]

variable (label) in
/-- Reservoirs that cease to be live are lost. -/
theorem Retires.holding {s s' : Service E} (h : s.Retires s') (aside : Multiset Ref) :
    ∃ lost, s'.holding label aside + lost = s.holding label aside := by
  have hle : s'.live.all + aside ≤ s.live.all + aside := add_le_add h.all_le le_rfl
  obtain ⟨lost, hlost⟩ : ∃ lost, s.stock label (s'.live.all + aside) + lost =
    s.stock label (s.live.all + aside) := stock_le hle
  refine ⟨lost, ?_⟩
  rw [Service.holding, Service.holding, ← hlost]
  exact congrArg (· + lost) (stock_congr fun ref _ => by rw [reservoir, reservoir, h.pool])

theorem holding_decide (s : Service E) (ref : Ref) (random : Float) (aside : Multiset Ref) :
    (s.decide ref random).2.holding label aside = s.holding label aside :=
  stock_modify_same s ref _ fun r => Sampling.Reservoir.parcels_congr (r.shell_decide random) rfl

theorem holding_countTry (s : Service E) (ref : Ref) (aside : Multiset Ref) :
    (s.countTry ref).2.holding label aside = s.holding label aside :=
  stock_modify_same s ref _ fun r => r.parcels_countTry

theorem Belongs.parcel {s : Service E} {kind : Kind} {app : String} {ref : Ref}
    (h : s.Belongs kind app ref) (event : E) :
    (s.reservoir ref).parcel label event = (label kind.service, app, event) := by
  rw [Sampling.Reservoir.parcel, h.app, h.service]

/-- An offer that cannot lose anything: the reservoir is sealed and refuses to decide, or it
is live and has room. -/
def Takes (s : Service E) (ref : Ref) (priority : Float) : Prop :=
  (s.reservoir ref).isSealed ∨
    (ref ∈ s.live.all ∧ Double.isNumber priority ∧
      (s.reservoir ref).size < (s.reservoir ref).capacity)

theorem Takes.offer_fst_ne_rejected {s : Service E} {ref : Ref} {priority : Float}
    (h : s.Takes ref priority) (event returned : E) :
    (s.offer ref priority event).1 ≠ .rejected returned := by
  change ((s.reservoir ref).offer priority event).1 ≠ .rejected returned
  rcases (s.reservoir ref).offer_cases priority event with
    ⟨-, ho⟩ | ⟨-, -, ho⟩ | ⟨hopen, hfull, ho⟩
  · simp [ho]
  · simp [ho]
  · rcases h with hsealed | ⟨-, hnumber, hlt⟩
    · rw [hopen] at hsealed
      exact absurd hsealed Bool.false_ne_true
    · have hge : (s.reservoir ref).capacity ≤ (s.reservoir ref).size := by
        simpa [Sampling.Reservoir.isFull] using hfull hnumber
      exact absurd hlt (Nat.not_lt.2 hge)

theorem Takes.sameReservoirs {s s' : Service E} {ref : Ref} {priority : Float}
    (h : s.Takes ref priority) (hs : s.SameReservoirs s') : s'.Takes ref priority := by
  unfold Takes at h ⊢
  rwa [hs.reservoir, hs.live]

/-- A live reservoir that takes an event says so beforehand. -/
theorem Takes.wouldAccept {s : Service E} {ref : Ref} {priority priority' : Float}
    (h : s.Takes ref priority) (hopen : (s.reservoir ref).isSealed = false)
    (hnumber : Double.isNumber priority') : (s.reservoir ref).wouldAccept priority' := by
  rcases h with hsealed | ⟨-, -, hlt⟩
  · rw [hopen] at hsealed
    exact absurd hsealed Bool.false_ne_true
  · have hfull : (s.reservoir ref).isFull = false := by
      simpa [Sampling.Reservoir.isFull] using hlt
    rw [Sampling.Reservoir.wouldAccept, hnumber, hfull]
    rfl

variable (label) in
/-- **Offering** an event to a reservoir adds it if it is accepted, unless the reservoir has
been forgotten. -/
theorem Sound.holding_offer {s : Service E} {aside : Multiset Ref} (h : s.Sound aside)
    {kind : Kind} {app : String} {ref : Ref} (hb : s.Belongs kind app ref) (priority : Float)
    (event : E) :
    ∃ lost, (s.offer ref priority event).2.holding label aside + lost = s.holding label aside +
        accepted (s.offer ref priority event).1 (label kind.service, app, event) ∧
      (s.Takes ref priority → lost = 0) := by
  obtain ⟨lost, hlost, hroom⟩ := (s.reservoir ref).parcels_offer label priority event
  rw [hb.parcel] at hlost
  by_cases hm : ref ∈ s.live.all + aside
  · refine ⟨lost, ?_, fun htakes => hroom (htakes.imp_right fun hlive => hlive.2.2)⟩
    have hstock := stock_modify label h.nodup hm hb.lt
      fun r => (r.offer priority event).2
    refine add_right_cancel (b := (s.reservoir ref).parcels label) ?_
    calc (s.offer ref priority event).2.holding label aside + lost + (s.reservoir ref).parcels label
        = (s.offer ref priority event).2.holding label aside + (s.reservoir ref).parcels label +
            lost := by abel
      _ = s.holding label aside + (((s.reservoir ref).offer priority event).2.parcels label +
            lost) := by
        rw [← Multiset.add_assoc]
        exact congrArg (· + lost) hstock
      _ = _ := by
        rw [hlost, Service.offer]
        abel
  · -- a forgotten reservoir: what it accepts is gone
    refine ⟨accepted (s.offer ref priority event).1 (label kind.service, app, event),
      congrArg (· + _) (stock_modify_of_notMem s hm _), ?_⟩
    rintro (hsealed | ⟨hlive, -⟩)
    · rw [Service.offer, Sampling.Reservoir.offer_of_isSealed hsealed]
      rfl
    · exact absurd (Multiset.mem_add.2 (.inl hlive)) hm

variable (label) in
/-- A new reservoir brings nothing in; the one it replaces is lost. -/
theorem Sound.holding_install {s : Service E} {aside : Multiset Ref} (h : s.Sound aside)
    (kind : Kind) (app : String) (decidedLast : Nat) :
    (s.install kind app decidedLast).2.holding label aside +
      s.stock label (s.liveRef? kind app).toList = s.holding label aside := by
  have hall := s.live.all_set kind app s.pool.size
  have hold : ∀ {refs : Multiset Ref}, (∀ ref ∈ refs, ref < s.pool.size) →
      (s.install kind app decidedLast).2.stock label refs = s.stock label refs := fun hlt =>
    stock_congr fun ref hm => by rw [reservoir_install (hlt ref hm)]
  have hlive : ∀ ref ∈ s.live.all, ref < s.pool.size := fun ref hm => by
    obtain ⟨kind, app, hr⟩ := Store.mem_all_iff.1 hm
    exact (h.live hr).lt
  have hreplaced : ∀ ref ∈ ((s.liveRef? kind app).toList : Multiset Ref), ref < s.pool.size :=
    fun ref hm => (h.live (Option.mem_toList.1 (Multiset.mem_coe.1 hm))).lt
  have hfresh : ((s.install kind app decidedLast).2.reservoir s.pool.size).parcels label = 0 := by
    rw [reservoir_install_self]
    rfl
  have hstock := congrArg ((s.install kind app decidedLast).2.stock label) hall
  rw [stock_add, stock_cons, hfresh, Multiset.zero_add, hold hlive] at hstock
  calc (s.install kind app decidedLast).2.holding label aside +
        s.stock label (s.liveRef? kind app).toList
      = (s.install kind app decidedLast).2.stock label (s.live.set kind app s.pool.size).all +
          (s.install kind app decidedLast).2.stock label (s.liveRef? kind app).toList +
          (s.install kind app decidedLast).2.stock label aside := by
        rw [hold hreplaced, holding, stock_add]
        simp only [Service.install]
        abel
    _ = s.holding label aside := by
        rw [holding, stock_add, hold fun _ hm => h.lt hm, ← hstock]
        rfl

/-- **Getting or creating** a live reservoir keeps everything. -/
theorem Sound.holding_getOrCreate {s : Service E} {aside : Multiset Ref} (h : s.Sound aside)
    (kind : Kind) (app : String) :
    (s.getOrCreate kind app).2.holding label aside = s.holding label aside := by
  rw [Service.getOrCreate]
  split
  · rfl
  next hr =>
    have hinstall := h.holding_install label kind app 0
    rw [hr] at hinstall
    exact (Multiset.add_zero _).symm.trans hinstall

variable (label) in
/-- **A swap** moves what was live to what is set aside. -/
theorem Sound.holding_swapOut {s : Service E} {aside : Multiset Ref} (h : s.Sound aside)
    (kind : Kind) (app : String) :
    (s.swapOut kind app).2.holding label (aside + (s.liveRef? kind app).toList) =
      s.holding label aside := by
  have hinstall := h.holding_install label kind app (s.liveTries kind app)
  cases hr : s.liveRef? kind app with
  | none =>
    rw [hr] at hinstall
    rw [swapOut_snd_of_none hr]
    simpa using hinstall
  | some ref =>
    have hlt := (h.live hr).lt
    have hreplaced : (s.install kind app (s.liveTries kind app)).2.stock label {ref} =
        s.stock label {ref} :=
      stock_congr fun ref' hm => by
        rw [Multiset.mem_singleton.1 hm, reservoir_install hlt]
    rw [hr] at hinstall
    rw [swapOut_snd_of_some hr, ← hinstall, holding_add]
    have hseal : ∀ refs : Multiset Ref,
        ((s.install kind app (s.liveTries kind app)).2.modify ref (·.sealed)).stock label refs =
          (s.install kind app (s.liveTries kind app)).2.stock label refs := fun refs =>
      stock_modify_same _ ref refs fun r => rfl
    have hkeep : ((s.install kind app (s.liveTries kind app)).2.modify ref (·.sealed)).holding label
        aside = (s.install kind app (s.liveTries kind app)).2.holding label aside := hseal _
    rw [hkeep, hseal]
    exact congrArg (_ + ·) hreplaced

variable (label) in
/-- **A merge** moves what the source holds to a live reservoir. Nothing is lost if there is
room for both. -/
theorem Sound.holding_mergeInto {s : Service E} {aside : Multiset Ref} {source target : Ref}
    (h : s.Sound (aside + {source})) {kind : Kind} {app : String}
    (hsource : s.Belongs kind app source) (htarget : s.liveRef? kind app = some target) :
    ∃ lost, (s.mergeInto target source).holding label aside + lost =
        s.holding label (aside + {source}) ∧
      ((s.reservoir target).size + (s.reservoir source).size ≤ (s.reservoir target).capacity →
        lost = 0) := by
  have hlive : target ∈ s.live.all := Store.mem_all_iff.2 ⟨kind, app, htarget⟩
  have hn := h.nodup
  rw [← Multiset.add_assoc, Multiset.add_comm, Multiset.singleton_add] at hn
  have hnot : source ∉ s.live.all + aside := (Multiset.nodup_cons.1 hn).1
  have hne : target ≠ source := fun heq =>
    hnot (heq ▸ Multiset.mem_add.2 (.inl hlive))
  have hsame : (s.reservoir source).parcel label = (s.reservoir target).parcel label := by
    funext event
    rw [hsource.parcel, (h.live htarget).parcel]
  obtain ⟨lost, hlost, hroom⟩ := Sampling.Reservoir.parcels_merge hsame
  refine ⟨lost, ?_, hroom⟩
  have htargetStays : (s.modify source (·.drained)).reservoir target = s.reservoir target :=
    s.reservoir_modify_of_ne hne _
  have hstock := stock_modify label (s := s.modify source (·.drained)) (Multiset.nodup_cons.1 hn).2
    (Multiset.mem_add.2 (.inl hlive)) (by rw [size_modify]; exact (h.live htarget).lt)
    (·.merge (s.reservoir source))
  rw [stock_modify_of_notMem s hnot, htargetStays] at hstock
  have hmerge : s.mergeInto target source =
      (s.modify source (·.drained)).modify target (·.merge (s.reservoir source)) := by
    rw [Service.mergeInto, if_neg hne]
  refine add_right_cancel (b := (s.reservoir target).parcels label) ?_
  calc (s.mergeInto target source).holding label aside + lost + (s.reservoir target).parcels label
      = s.stock label (s.live.all + aside) +
          (((s.reservoir target).merge (s.reservoir source)).parcels label + lost) := by
        rw [← Multiset.add_assoc, ← hstock, hmerge]
        rw [holding]
        simp only [live_modify]
        abel
    _ = s.holding label (aside + {source}) + (s.reservoir target).parcels label := by
        rw [hlost, holding_add, stock_singleton, holding]
        abel

end Events.Service

end Telemetry
