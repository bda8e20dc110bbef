import Telemetry.Proofs.Events.Calm

/-!
# Nothing is lost while there is room

A calm run stays calm, one lemma for each function, as long as all its events are at most `N`
(`Run.IsCalm`). Then `Run.Kept` holds with nothing lost, and between the steps at the top the
events of the run are all in the places that remain: `Run.heldFor_eq_recorded`.

The labels tell the kinds apart here. That way the same equation also says how many ordinary
events there are, which is what tries are counted against.
-/

namespace Telemetry.Events

open Sampling (HasPriority Offer)

variable {E P S T : Type} {N : Nat}

namespace Run

section Functions

variable [HasPriority E] {label : String → T} {r : Run E P S} {app : String}

/-! ### Recording -/

/-- Whatever live reservoir an event competes for has room. -/
theorem IsCalm.hasRoom (h : r.IsCalm N) (hs : r.Sound 0) {job : Job E P} (hjob : job.Collects)
    (hbound : (r.total label 0).card < N) (app : String) :
    r.service.HasRoom app job.work where
  isNumber := hjob.isNumber
  isNumber_event := by rw [hjob.priority]; exact hjob.isNumber
  live kind ref hlive := by
    have hmem : ref ∈ r.service.live.all := Store.mem_all_iff.2 ⟨kind, app, hlive⟩
    have hsize := size_add_le label r 0 hmem
    have hcapacity := (h.service.pool ref (hs.service.live hlive).lt).capacity
    omega
  fresh kind := by
    have hcapacity := h.service.fresh kind app 0
    omega

/-- An offer to a current reservoir loses nothing. -/
theorem IsCalm.takes (h : r.IsCalm N) (hs : r.Sound 0) {job : Job E P} (hjob : job.Collects)
    (hbound : (r.total label 0).card < N) {ref : Ref} (hcurrent : r.service.IsCurrent ref) :
    r.service.Takes ref (HasPriority.priority job.work.event) := by
  refine hcurrent.imp_right fun hmem => ⟨hmem, ?_, ?_⟩
  · rw [hjob.priority]
    exact hjob.isNumber
  · obtain ⟨kind, app, hlive⟩ := Store.mem_all_iff.1 hmem
    exact (h.hasRoom hs hjob hbound app).live kind ref hlive

theorem IsCalm.offerTo (h : r.IsCalm N) (hs : r.Sound 0) {kind : Kind} {ref : Ref} {job : Job E P}
    (hjob : job.Collects)
    (htakes : r.service.Takes ref (HasPriority.priority job.work.event)) :
    (r.offerTo kind app job ref).IsCalm N := by
  have hkept := htakes.offer_fst_ne_rejected job.work.event
  have hoffer : (r.withService (r.service.offer ref (HasPriority.priority job.work.event)
      job.work.event).2).IsCalm N :=
    h.withService hs (h.service.offer htakes _) (r.service.grows_offer (fun _ => False) ref _ _)
      (fun _ _ => id) rfl fun ref' hm => .inr hm
  rw [Run.offerTo_eq]
  generalize r.service.offer ref (HasPriority.priority job.work.event) job.work.event = result
    at hkept hoffer ⊢
  obtain ⟨decision, s⟩ := result
  simp only at hkept hoffer ⊢
  cases decision with
  | accepted =>
    cases kind with
    | ordinary => exact hoffer.same rfl rfl rfl rfl
    | synthetic => exact IsCalm.same (hoffer.note rfl) rfl rfl rfl rfl
  | rejected _ => exact absurd rfl (hkept _)
  | closed _ =>
    cases kind <;> exact hoffer.push hjob

theorem IsCalm.submit (h : r.IsCalm N) (hs : r.Sound 0) {kind : Kind} {ref : Ref} {job : Job E P}
    (hjob : job.Collects) (hcurrent : r.service.IsCurrent ref)
    (hbound : (r.total label 0).card < N) : (r.submit kind app job ref).IsCalm N := by
  rw [Run.submit]
  split
  next steps later hturns =>
    have hmem : steps ∈ job.onPriority := by rw [hturns]; exact List.mem_cons_self
    refine h.within (hjob.onPriority steps hmem)
      ⟨⟨hjob.priority, hjob.isNumber, hjob.onBuild, ?_⟩, hcurrent⟩
    intro steps' hm
    exact hjob.onPriority steps' (by rw [hturns]; exact List.mem_cons_of_mem _ hm)
  next => exact h.offerTo hs hjob (h.takes hs hjob hbound hcurrent)

theorem IsCalm.getOrCreate (h : r.IsCalm N) {hand : Multiset Ref} (hs : r.Sound hand)
    (kind : Kind) (app : String) :
    (r.withService (r.service.getOrCreate kind app).2).IsCalm N := by
  have hqueue := congrArg Backlog.queue (r.service.backlog_getOrCreate kind app)
  exact h.withService hs (h.service.getOrCreate kind app)
    (r.service.grows_getOrCreate (fun _ => False) kind app) (fun _ _ => id) hqueue
    fun ref hm => r.service.isCurrent_getOrCreate kind app hm

theorem IsCalm.swapOut (h : r.IsCalm N) {hand : Multiset Ref} (hs : r.Sound hand) (kind : Kind)
    (app : String) :
    (r.withService (r.service.swapOut kind app).2).IsCalm N := by
  have hqueue := congrArg Backlog.queue (r.service.backlog_swapOut kind app)
  exact h.withService hs (h.service.swapOut kind app)
    (r.service.grows_swapOut (fun _ => False) kind app) (fun _ _ => id) hqueue
    fun ref hm => hs.service.isCurrent_swapOut kind app hm

theorem IsCalm.compete (h : r.IsCalm N) (hs : r.Sound 0) (kind : Kind) {job : Job E P}
    (hjob : job.Collects) (hbound : (r.total label 0).card < N) :
    (r.compete kind app job).IsCalm N := by
  have hstart : Kept label True 0 r 0 r 0 := .refl hs
  have hgot := hstart.getOrCreate kind app
  have hlive := r.service.liveRef?_getOrCreate kind app
  have hcalm := h.getOrCreate hs kind app
  have htakes := (h.hasRoom hs hjob hbound app).takes kind
  have htotal := hgot.total_eq
  rw [Run.compete]
  generalize r.service.getOrCreate kind app = result at hgot hlive hcalm htakes htotal ⊢
  obtain ⟨ref, s⟩ := result
  simp only [Multiset.add_zero] at hgot hlive hcalm htakes htotal ⊢
  rw [← htotal] at hbound
  have hcurrent : s.IsCurrent ref := .inr (Store.mem_all_iff.2 ⟨kind, app, hlive⟩)
  cases kind with
  | synthetic => exact hcalm.submit hgot.sound hjob hcurrent hbound
  | ordinary =>
    have hwould := htakes.wouldAccept (hgot.sound.service.isOpen hlive) hjob.isNumber
    simp only
    rw [if_pos hwould]
    split
    next steps hbuild =>
      refine hcalm.within (hjob.onBuild steps hbuild) ⟨hjob, fun ref' hgoal => ?_⟩
      obtain rfl := Option.some.inj hgoal
      exact hcurrent
    next => exact hcalm.submit hgot.sound hjob hcurrent hbound

theorem IsCalm.afterBuild (h : r.IsCalm N) (hs : r.Sound 0) {job : Job E P} (hjob : job.Collects)
    (namesVersion : Nat) {goal : Option Ref}
    (hcurrent : ∀ ref, goal = some ref → r.service.IsCurrent ref)
    (hbound : (r.total label 0).card < N) :
    (r.afterBuild app job namesVersion goal).IsCalm N := by
  have hstart : Kept label True 0 r 0 r 0 := .refl hs
  have hsame := r.service.sameReservoirs_internAt namesVersion job.work.name
  have hshared := hstart.sameReservoirs hsame
  have hservice := h.service.sameReservoirs
    (h.service.toIsAmple.same (r.service.sameSettings_internAt namesVersion job.work.name)) hsame
  have hcurrent' : ∀ ref, r.service.IsCurrent ref →
      (r.service.internAt namesVersion job.work.name).IsCurrent ref := fun ref hr => by
    unfold Service.IsCurrent at hr ⊢
    rwa [hsame.reservoir, hsame.live]
  have hcalm := h.withService hs hservice (hsame.grows fun _ => False) (fun _ _ => id) hsame.queue
    fun ref hm => hcurrent' ref (.inr hm)
  have htotal := hshared.total_eq
  rw [Multiset.add_zero] at htotal
  rw [← htotal] at hbound
  have hbuilt : Job.Collects { job with onBuild := none } :=
    ⟨hjob.priority, hjob.isNumber, fun _ hnone => (nomatch hnone), hjob.onPriority⟩
  cases goal with
  | none => exact hcalm.compete hshared.sound .synthetic hbuilt hbound
  | some ref =>
    exact hcalm.submit hshared.sound hbuilt (hcurrent' ref (hcurrent ref rfl)) hbound

theorem IsCalm.afterAsk (h : r.IsCalm N) (hs : r.Sound 0) {job : Job E P} (hjob : job.Collects)
    (hbound : (r.total label 0).card < N) : (r.afterAsk app job).IsCalm N := by
  rw [Run.afterAsk]
  split
  · refine h.within (fun s hm => ?_) ⟨hjob, fun _ hnone => nomatch hnone⟩
    cases hbuild : job.onBuild with
    | none =>
      rw [hbuild] at hm
      exact absurd hm List.not_mem_nil
    | some steps =>
      rw [hbuild] at hm
      exact hjob.onBuild steps hbuild s hm
  · exact h.compete hs .ordinary hjob hbound

theorem IsCalm.record (h : r.IsCalm N) (hs : r.Sound 0) {work : Work E}
    {onAsk onBuild : List (Step E P)} {onPriority : List (List (Step E P))}
    (hcollects : (Step.recordWith app work onAsk onBuild onPriority).Collects) :
    (r.record app work onAsk onBuild onPriority).IsCalm N := by
  obtain ⟨hpriority, hnumber, hask, hbuild, hturns⟩ := hcollects
  have hsame := r.service.sameReservoirs_askEnabled app
  have hcalm := h.withService hs
    (h.service.sameReservoirs (h.service.toIsAmple.askEnabled app) hsame)
    (hsame.grows fun _ => False) (fun _ _ => id) hsame.queue fun ref hm => .inr (hsame.live ▸ hm)
  rw [Run.record]
  simp only [h.service.isActive, h.service.toIsAmple.fst_askEnabled app, Bool.not_true,
    Bool.false_eq_true, if_false]
  refine hcalm.within hask ⟨hpriority, hnumber, fun steps hsteps => ?_, hturns⟩
  obtain rfl := Option.some.inj hsteps
  exact hbuild

/-! ### Harvesting -/

/-- A reservoir in hand that is not empty finds a place in the backlog. -/
theorem IsCalm.size_backlog_lt (h : r.IsCalm N) {ref : Ref}
    (hheld : (r.service.reservoir ref).isEmpty = false)
    (hbound : (r.total label {ref}).card ≤ N) :
    r.service.backlog.size < r.service.backlog.capacity := by
  have hsize := h.size_backlog_le label {ref}
  have hpos : (r.service.reservoir ref).size ≠ 0 := by
    simpa [Sampling.Reservoir.isEmpty] using hheld
  have hcapacity := h.service.backlog
  rw [Service.stock_singleton, Sampling.Reservoir.card_parcels] at hsize
  omega

/-- After the swap, there is room in the backlog for what was live. -/
theorem IsCalm.size_backlog_lt_swapOut (h : r.IsCalm N) (hs : r.Sound 0)
    (hbound : (r.total label 0).card ≤ N) {ref : Ref}
    (hlive : r.service.liveRef? .synthetic app = some ref)
    (hheld : ((r.service.swapOut .synthetic app).2.reservoir ref).isEmpty = false) :
    (r.service.swapOut .synthetic app).2.backlog.size <
      (r.service.swapOut .synthetic app).2.backlog.capacity := by
  have hstart : Kept label True 0 r 0 r 0 := .refl hs
  have hswap := hstart.swapOut .synthetic app
  have hcalm := h.swapOut hs .synthetic app
  have htotal := hswap.total_eq
  rw [hlive, Multiset.add_zero] at htotal
  rw [← htotal] at hbound
  exact hcalm.size_backlog_lt hheld hbound

theorem IsCalm.enqueue (h : r.IsCalm N) {hand : Multiset Ref} (hs : r.Sound hand) {ref : Ref}
    (hheld : (r.service.reservoir ref).isEmpty = false)
    (hroom : r.service.backlog.size < r.service.backlog.capacity) (app : String) :
    (r.enqueue app ref).IsCalm N := by
  have hpush : r.service.backlog.push ref = .ok
      { r.service.backlog with queue := r.service.backlog.queue ++ [ref] } := by
    rw [Backlog.push, if_neg (Nat.not_le.2 hroom)]
  rw [Run.enqueue]
  simp only [hpush]
  refine h.requeued hs rfl fun ref' hm => ?_
  rcases List.mem_append.1 hm with hm | hm
  · exact h.waiting ref' hm
  · obtain rfl := List.mem_singleton.1 hm
    exact hheld

/-- **The first half of a harvest** keeps the run calm. -/
theorem IsCalm.harvest (h : r.IsCalm N) (hs : r.Sound 0) (hbound : (r.total label 0).card ≤ N)
    (app : String) : (r.harvest app).IsCalm N := by
  have hanswered : (r.withAnswer .none).IsCalm N := h.same rfl rfl rfl rfl
  have hstart : Kept label True 0 r 0 (r.withAnswer .none) 0 := (Kept.refl hs).withAnswer .none
  have hcalm := hanswered.swapOut hstart.sound .synthetic app
  have hswap := hstart.swapOut .synthetic app
  have hfst := (r.withAnswer .none).service.swapOut_fst .synthetic app
  rw [Run.harvest]
  simp only
  split
  · exact hanswered
  · refine IsCalm.push ?_ trivial
    split
    next ref hlive =>
      rw [hfst] at hlive
      split
      next => exact hcalm
      next hheld =>
        have hheld' := eq_false_of_ne_true hheld
        exact hcalm.enqueue hswap.sound hheld'
          (h.size_backlog_lt_swapOut hs hbound hlive hheld') app
    next => exact hcalm

theorem IsCalm.endDrain (h : r.IsCalm N) (app : String) : (r.endDrain app).IsCalm N :=
  IsCalm.push (h.note rfl) trivial

theorem IsCalm.drain (h : r.IsCalm N) (hs : r.Sound 0) (app : String) (budget : Nat) :
    (r.drain app budget).IsCalm N := by
  unfold Run.drain Backlog.pop?
  cases budget with
  | zero => exact h.endDrain app
  | succ budget =>
    cases hq : r.service.backlog.queue with
    | nil => exact h.endDrain app
    | cons ref rest =>
      have hheld := h.waiting ref (by rw [hq]; exact List.mem_cons_self)
      have hpop : (r.withService { r.service with
          backlog := { r.service.backlog with queue := rest } }).IsCalm N := by
        refine h.requeued hs rfl fun ref' hm => h.waiting ref' ?_
        rw [hq]
        exact List.mem_cons_of_mem _ hm
      refine hpop.send .synthetic fun flight houtcome hbatch => ⟨houtcome, ?_⟩
      rw [hbatch]
      exact Service.events_batch_ne_nil_iff.2 hheld

theorem IsCalm.requeue (h : r.IsCalm N) {hand : Multiset Ref} (hs : r.Sound hand) {ref : Ref}
    (hheld : (r.service.reservoir ref).isEmpty = false)
    (hroom : r.service.backlog.size < r.service.backlog.capacity) : (r.requeue ref).IsCalm N := by
  have hrequeue : r.service.backlog.requeue ref = (none,
      { r.service.backlog with queue := ref :: r.service.backlog.queue }) := by
    rw [Backlog.requeue, if_neg]
    rw [Backlog.size] at hroom
    rw [List.length_cons]
    omega
  rw [Run.requeue]
  simp only [hrequeue]
  refine h.requeued hs rfl fun ref' hm => ?_
  rcases List.mem_cons.1 hm with rfl | hm
  · exact hheld
  · exact h.waiting ref' hm

/-- What a send hands over counts as many tries as it holds events. -/
theorem IsCalm.tries_batch (h : r.IsCalm N) {hand : Multiset Ref} {ref : Ref}
    (hs : r.Sound (hand + {ref})) :
    (r.service.batch ref).tries = (r.service.batch ref).events.length := by
  have hmem : ref ∈ r.aside + (hand + {ref}) :=
    Multiset.mem_add.2 (.inr (Multiset.mem_add.2 (.inr (Multiset.mem_singleton_self ref))))
  have htries := (h.service.pool ref (hs.service.lt hmem)).tries
  exact htries.trans (Sampling.Reservoir.length_toList _).symm

/-- **The outcome of a synthetic send** keeps the run calm. -/
theorem IsCalm.settleSynthetic (h : r.IsCalm N) {flight : Flight E}
    (hs : r.Sound (0 + {flight.ref})) (budget : Nat)
    (hfits : (Frame.settleSynthetic app budget flight : Frame E P).Fits r.service)
    (hframe : (Frame.settleSynthetic app budget flight : Frame E P).IsCalm r.service)
    (hbound : (r.total label (0 + {flight.ref})).card ≤ N) :
    (r.settleSynthetic app budget flight).IsCalm N := by
  obtain ⟨hbatch, owner, hb⟩ := hfits
  obtain ⟨houtcome, hnonempty⟩ := hframe
  rw [hbatch] at hnonempty
  have hheld := Service.events_batch_ne_nil_iff.1 hnonempty
  rw [Run.settleSynthetic]
  simp only
  cases hout : flight.outcome with
  | none =>
    have hdelivered := h.deliver .synthetic (hbatch ▸ h.tries_batch hs)
    exact IsCalm.push (hdelivered.note rfl) trivial
  | some error =>
    have htransient := houtcome error hout
    have hstart : Kept label True 0 r (0 + {flight.ref}) r (0 + {flight.ref}) := .refl hs
    have hnoted := hstart.note (Note.isQuiet_settled .synthetic flight.batch error)
    simp only
    rw [if_pos htransient]
    have hquiet : (Note.settled .synthetic flight.batch (some error)).delivered? = none := rfl
    refine IsCalm.endDrain (IsCalm.requeue (IsCalm.note ((h.note hquiet).logUnsent _ _ _) rfl)
      ((hnoted.logUnsent _ _ _).note (Note.isQuiet_counted _ _ _)).sound ?_ ?_) app
    · simpa only [note_service, logUnsent_service] using hheld
    · simpa only [note_service, logUnsent_service] using h.size_backlog_lt hheld hbound

/-- **The second half of a harvest** keeps the run calm. -/
theorem IsCalm.harvestOrdinary (h : r.IsCalm N) (hs : r.Sound 0) (app : String) :
    (r.harvestOrdinary app).IsCalm N := by
  have hstart : Kept (fun _ => ()) True 0 r 0 r 0 := .refl hs
  have hsame := r.service.sameReservoirs_askEnabled app
  have hasked := hstart.sameReservoirs hsame
  have hcalm := h.withService hs
    (h.service.sameReservoirs (h.service.toIsAmple.askEnabled app) hsame)
    (hsame.grows fun _ => False) (fun _ _ => id) hsame.queue fun ref hm => .inr (hsame.live ▸ hm)
  have hswapped := hcalm.swapOut hasked.sound .ordinary app
  rw [Run.harvestOrdinary]
  simp only [h.service.toIsAmple.fst_askEnabled app, Bool.not_true, Bool.false_eq_true, if_false]
  split
  · exact hswapped
  · split
    · exact hswapped
    · exact IsCalm.send (hswapped.note rfl) .ordinary fun flight houtcome _ => houtcome

/-- After a live reservoir has been made, it has room for what is being sent. -/
theorem IsCalm.room_getOrCreate (h : r.IsCalm N) {ref : Ref} (hs : r.Sound (0 + {ref}))
    (hbound : (r.total label (0 + {ref})).card ≤ N) :
    ((r.service.getOrCreate .ordinary app).2.reservoir
        (r.service.getOrCreate .ordinary app).1).size +
      ((r.service.getOrCreate .ordinary app).2.reservoir ref).size ≤
    ((r.service.getOrCreate .ordinary app).2.reservoir
      (r.service.getOrCreate .ordinary app).1).capacity := by
  have hstart : Kept label True 0 r (0 + {ref}) r (0 + {ref}) := .refl hs
  have hgot := hstart.getOrCreate .ordinary app
  have hlive := r.service.liveRef?_getOrCreate .ordinary app
  have htotal := hgot.total_eq
  have hsize := size_add_le label (r.withService (r.service.getOrCreate .ordinary app).2)
    (0 + {ref})
    (Store.mem_all_iff.2 ⟨.ordinary, app, hlive⟩)
  have hcapacity := ((h.service.getOrCreate .ordinary app).pool _
    (hgot.sound.service.live hlive).lt).capacity
  rw [htotal, Multiset.add_zero, Multiset.zero_add, Service.stock_singleton,
    Sampling.Reservoir.card_parcels] at hsize
  rw [Multiset.zero_add] at hbound
  exact le_trans (le_trans hsize hbound) hcapacity

theorem IsCalm.mergeInto (h : r.IsCalm N) {hand : Multiset Ref} {source target : Ref}
    (hs : r.Sound (hand + {source})) {kind : Kind}
    (htarget : r.service.liveRef? kind app = some target)
    (hroom : (r.service.reservoir target).size + (r.service.reservoir source).size ≤
      (r.service.reservoir target).capacity) :
    (r.withService (r.service.mergeInto target source)).IsCalm N := by
  have hmem : source ∈ r.aside + (hand + {source}) :=
    Multiset.mem_add.2 (.inr (Multiset.mem_add.2 (.inr (Multiset.mem_singleton_self source))))
  have hsame : (r.service.mergeInto target source).backlog = r.service.backlog ∧
      (r.service.mergeInto target source).live = r.service.live := by
    rw [Service.mergeInto]
    split <;> exact ⟨rfl, rfl⟩
  refine h.withService hs (h.service.mergeInto (hs.service.lt hmem) hroom)
    (hs.service.grows_mergeInto htarget) (fun ref hm => hs.ne_of_mem_aside hm)
    (congrArg Backlog.queue hsame.1) fun ref hm => .inr ?_
  rw [hsame.2]
  exact hm

/-- A passing failure is worth another attempt, whatever the policy. -/
theorem isRetried_of_isTransient {error : TransmitError} (h : error.isTransient)
    (policy : Config.UnexpectedErrorPolicy) : isRetried error policy := by
  cases error with
  | transient message => rfl
  | permanent message => nomatch h
  | unexpected causes => nomatch h

/-- **The outcome of an ordinary send** keeps the run calm. -/
theorem IsCalm.settleOrdinary (h : r.IsCalm N) {flight : Flight E}
    (hs : r.Sound (0 + {flight.ref}))
    (hfits : (Frame.settleOrdinary app flight : Frame E P).Fits r.service)
    (hframe : (Frame.settleOrdinary app flight : Frame E P).IsCalm r.service)
    (hbound : (r.total label (0 + {flight.ref})).card ≤ N) :
    (r.settleOrdinary app flight).IsCalm N := by
  obtain ⟨hbatch, hb⟩ := hfits
  have htries := h.tries_batch hs
  rw [Run.settleOrdinary]
  simp only
  cases hout : flight.outcome with
  | none =>
    have hdelivered := h.deliver .ordinary (hbatch ▸ htries)
    exact IsCalm.note (IsCalm.note (IsCalm.note (hdelivered.note rfl) rfl) rfl) rfl
  | some error =>
    have hretried := isRetried_of_isTransient (hframe error hout)
    have hstart : Kept label True 0 r (0 + {flight.ref}) r (0 + {flight.ref}) := .refl hs
    have hnoted := hstart.note (Note.isQuiet_settled .ordinary flight.batch error)
    have hquiet : (Note.settled .ordinary flight.batch (some error)).delivered? = none := rfl
    simp only [hretried, if_true]
    have hlogged : ∀ message, Kept label True 0 r (0 + {flight.ref})
        ((r.note (.settled .ordinary flight.batch (some error))).logUnsent app message error)
        (0 + {flight.ref}) := fun message => hnoted.logUnsent app message error
    refine IsCalm.note (IsCalm.mergeInto (IsCalm.getOrCreate ((h.note hquiet).logUnsent _ _ _)
      (hlogged _).sound .ordinary app) ((hlogged _).getOrCreate .ordinary app).sound
      (Service.liveRef?_getOrCreate _ .ordinary app) ?_) rfl
    simp only [note_service, logUnsent_service]
    exact h.room_getOrCreate hs hbound

/-! ### Steps -/

/-- Starting a record or a harvest keeps a run calm, and loses nothing. -/
theorem IsCalm.start {r : Run E Empty Unit} (h : r.IsCalm N) (hs : r.Sound 0) {s : Step E Empty}
    (hcollects : s.Collects) (hbound : (r.total label 0).card ≤ N) :
    (r.start (.idle E) s).IsCalm N ∧
      Kept label True (begun label (r.callOf? s).toList) r 0 (r.start (.idle E) s) 0 := by
  cases hcollects with
  | record hpriority hnumber hask hbuild hturns =>
    exact ⟨h.record hs (.record hpriority hnumber hask hbuild hturns), hs.record _ _ _ _ fun _ =>
      ⟨h.service.isActive, h.service.toIsAmple.fst_askEnabled _⟩⟩
  | harvest app =>
    exact ⟨h.harvest hs hbound app, hs.harvest fun _ ref hlive hheld =>
      h.size_backlog_lt_swapOut hs hbound hlive hheld⟩

/-- **Each step of a calm run** keeps it calm, and loses nothing. -/
theorem IsCalm.resume {r : Run E Empty Unit} {f : Frame E Empty} (h : r.IsCalm N)
    (hs : r.Sound (0 + sending f)) (hfits : f.Fits r.service) (hframe : f.IsCalm r.service)
    (hbound : (r.total label (0 + sending f) + f.pending label).card ≤ N) :
    (r.resume (.idle E) f).IsCalm N ∧
      Kept label True (f.pending label + begun label (r.callFrom? f).toList) r (0 + sending f)
        (r.resume (.idle E) f) 0 := by
  have hstart : Kept label True 0 r (0 + sending f) r (0 + sending f) := .refl hs
  rw [Multiset.card_add] at hbound
  -- the event of a record on its way is one more than the events in place
  have hroom : (f.pending label).card = 1 → (r.total label (0 + sending f)).card < N := by
    omega
  cases f with
  | steps steps =>
    cases steps with
    | nil => exact ⟨h, hstart⟩
    | cons s rest =>
      have hrest : ∀ s' ∈ rest, s'.Collects := fun s' hm => hframe s' (List.mem_cons_of_mem s hm)
      have hpush : Kept label True 0 r 0 (r.push (.steps rest)) 0 :=
        hstart.push trivial rfl (Multiset.add_zero _)
      have hbound' : ((r.push (.steps rest)).total label 0).card ≤ N := by
        rw [hpush.total_eq, Multiset.card_add]
        exact hbound
      have hpushed : (r.push (.steps rest)).IsCalm N := h.push hrest
      obtain ⟨hcalm, hkept⟩ := hpushed.start hpush.sound (hframe s List.mem_cons_self) hbound'
      have hnext := hpush.andThen hkept
      rw [Run.push, callOf?_stack, ← Multiset.zero_add (begun label _)] at hnext
      exact ⟨hcalm, hnext⟩
  | asked app job =>
    have hlt := hroom rfl
    exact ⟨h.afterAsk hs hframe hlt, hs.afterAsk job (.inr trivial) fun _ =>
      h.hasRoom hs hframe hlt app⟩
  | compete kind app job =>
    have hlt := hroom rfl
    exact ⟨h.compete hs kind hframe hlt, hs.compete kind job (.inr trivial) fun _ =>
      h.hasRoom hs hframe hlt app⟩
  | built app job namesVersion goal =>
    obtain ⟨hjob, hcurrent⟩ := hframe
    have hlt := hroom (by cases goal <;> rfl)
    rw [show begun label (r.callFrom? (.built app job namesVersion goal)).toList = 0 from rfl,
      Multiset.add_zero]
    exact ⟨h.afterBuild hs hjob namesVersion hcurrent hlt,
      hs.afterBuild job namesVersion goal hfits (.inr trivial)
        (fun _ => h.hasRoom hs hjob hlt app)
        fun ref hgoal _ => h.takes hs hjob hlt (hcurrent ref hgoal)⟩
  | offer kind app job ref =>
    obtain ⟨hjob, hcurrent⟩ := hframe
    have htakes := h.takes hs hjob (hroom rfl) hcurrent
    exact ⟨h.offerTo hs hjob htakes, hs.offerTo hfits job (.inr trivial) fun _ => htakes⟩
  | drain app budget => exact ⟨h.drain hs app budget, hs.drain app budget⟩
  | settleSynthetic app budget flight =>
    have hheld : (r.service.reservoir flight.ref).isEmpty = false := by
      have hnonempty := hframe.2
      rw [hfits.1] at hnonempty
      exact Service.events_batch_ne_nil_iff.1 hnonempty
    have hfull := h.size_backlog_lt hheld hbound
    exact ⟨h.settleSynthetic hs budget hfits hframe hbound,
      hs.settleSynthetic budget hfits fun _ => ⟨hframe.1, hfull⟩⟩
  | ordinary app =>
    exact ⟨h.harvestOrdinary hs app, hs.harvestOrdinary fun _ =>
      h.service.toIsAmple.fst_askEnabled app⟩
  | settleOrdinary app flight =>
    exact ⟨h.settleOrdinary hs hfits hframe hbound, hs.settleOrdinary hfits fun _ error hout =>
      ⟨isRetried_of_isTransient (hframe error hout) _, h.room_getOrCreate hs hbound⟩⟩
  | foreground wasBackground =>
    exact ⟨h.same rfl rfl rfl rfl, hstart.same rfl rfl rfl rfl⟩

theorem IsCalm.step {r r' : Run E Empty Unit} (h : r.IsCalm N) (hs : r.Sound 0)
    (hbound : (r.total label 0).card ≤ N) (hstep : r.step (.idle E) = some r') :
    r'.IsCalm N ∧ Kept label True (begun label r.call?.toList) r 0 r' 0 := by
  obtain ⟨f, rest, hstack, rfl⟩ := step_eq_some_iff.1 hstep
  have hmem : f ∈ r.stack := by
    rw [hstack]
    exact List.mem_cons_self
  have hpopped : IsCalm N { r with stack := rest } :=
    ⟨h.service, fun g hg => h.frames g (by rw [hstack]; exact List.mem_cons_of_mem f hg),
      h.waiting, h.transport, h.delivered⟩
  rw [total_of_stack label hstack] at hbound
  obtain ⟨hcalm, hkept⟩ := hpopped.resume (hs.pop hstack) (hs.fits f hmem) (h.frames f hmem) hbound
  rw [call?_of_stack hstack]
  exact ⟨hcalm, hkept.popped hstack⟩

/-- **A calm run loses nothing**, as long as there is room for all that it records. -/
theorem IsCalm.advance {r : Run E Empty Unit} (h : r.IsCalm N) (hs : r.Sound 0) (n : Nat)
    (hbound : (r.total label 0).card + (r.recorded (.idle E) n).length ≤ N) :
    (r.advance (.idle E) n).IsCalm N ∧
      Kept label True (begun label (r.recorded (.idle E) n)) r 0 (r.advance (.idle E) n) 0 := by
  induction n generalizing r with
  | zero => exact ⟨h, .refl hs⟩
  | succ n ih =>
    cases hstep : r.step (.idle E) with
    | none =>
      rw [recorded_succ_of_none hstep, advance_succ_of_none hstep]
      exact ⟨h, .refl hs⟩
    | some r' =>
      rw [recorded_succ_of_some hstep] at hbound
      obtain ⟨hcalm, hkept⟩ := h.step hs (Nat.le_of_add_right_le hbound) hstep
      have hbound' : (r'.total label 0).card + (r'.recorded (.idle E) n).length ≤ N := by
        rw [hkept.total_eq, Multiset.card_add, card_begun]
        rw [List.length_append] at hbound
        omega
      obtain ⟨hcalm', hkept'⟩ := ih hcalm hkept.sound hbound'
      rw [recorded_succ_of_some hstep, advance_succ_of_some hstep, begun_append]
      exact ⟨hcalm', hkept.trans hkept'⟩

end Functions

end Run

end Telemetry.Events
