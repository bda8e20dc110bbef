import Telemetry.Proofs.Events.Conservation
import Telemetry.Proofs.Events.Transmitter

/-!
# Runs with room for everything

What `Run.Kept` calls `calm`, made concrete for a number `N` of events. A run is calm
(`Run.Calm`) if its service collects for all applications, everything has room for `N` events,
sends only fail in passing, and nothing but records and harvests is going on. Two facts are
carried along from which nothing could be derived otherwise:

* a reservoir that is not full counts one try for each event that it holds, so tries and
  contents agree (`Reservoir.IsSpacious`);
* no batch waits that is empty, so a queue is no longer than the events in it are many.

A reservoir that a frame of a record refers to is live, or has been sealed by a harvest
(`Service.IsCurrent`): an event is never offered to a reservoir that was forgotten.
-/

namespace Telemetry

open Sampling (HasPriority)

/-! ### Reservoirs -/

namespace Sampling.Reservoir

variable {E : Type} {N : Nat}

/-- A reservoir with room for `N` events that has turned none away. -/
structure IsSpacious (N : Nat) (r : Reservoir E) : Prop where
  capacity : N ≤ r.capacity
  tries : r.tries = r.size

theorem capacity_of_shell {r r' : Reservoir E} (h : r'.shell = r.shell) :
    r'.capacity = r.capacity :=
  congrArg (·.2.2.1) h

theorem size_eq_add {r r' : Reservoir E} {brought : Multiset E}
    (h : r'.retained = r.retained + brought) : r'.size = r.size + brought.card := by
  rw [← card_retained, h, Multiset.card_add, card_retained]

theorem IsSpacious.empty {app service : String} {capacity decidedLast target : Nat}
    (h : N ≤ capacity) :
    (Reservoir.empty app service capacity decidedLast target : Reservoir E).IsSpacious N :=
  ⟨h, rfl⟩

theorem IsSpacious.sealed {r : Reservoir E} (h : r.IsSpacious N) : r.sealed.IsSpacious N :=
  ⟨h.capacity, h.tries⟩

theorem IsSpacious.drained {r : Reservoir E} (h : r.IsSpacious N) : r.drained.IsSpacious N :=
  ⟨h.capacity, rfl⟩

/-- An offer that finds room, or a sealed reservoir, keeps tries and contents in step. -/
theorem IsSpacious.offer {r : Reservoir E} (h : r.IsSpacious N) {priority : Float}
    (hroom : r.isSealed ∨ (Double.isNumber priority ∧ r.size < r.capacity)) (event : E) :
    (r.offer priority event).2.IsSpacious N := by
  refine ⟨?_, ?_⟩
  · rw [capacity_of_shell (r.shell_offer priority event)]
    exact h.capacity
  · rcases r.offer_cases priority event with ⟨-, ho⟩ | ⟨hopen, -, ho⟩ | ⟨hopen, hfull, ho⟩
    · rw [ho]
      exact h.tries
    · have hlt := (hroom.resolve_left (by rw [hopen]; exact Bool.false_ne_true)).2
      obtain ⟨lost, hlost, hnone⟩ := r.tried.retained_insert priority event
      rw [hnone hlt, Multiset.add_zero, retained_tried, ← Multiset.singleton_add,
        Multiset.add_comm] at hlost
      rw [ho, tries_insert, tries_tried, size_eq_add hlost, h.tries]
      rfl
    · obtain ⟨hnumber, hlt⟩ := hroom.resolve_left (by rw [hopen]; exact Bool.false_ne_true)
      have hge : r.capacity ≤ r.size := by simpa [isFull] using hfull hnumber
      exact absurd hlt (Nat.not_lt.2 hge)

theorem IsSpacious.merge {r other : Reservoir E} (h : r.IsSpacious N) (hother : other.IsSpacious N)
    (hroom : r.size + other.size ≤ r.capacity) : (r.merge other).IsSpacious N := by
  obtain ⟨lost, hlost, hnone⟩ := r.retained_merge other
  rw [hnone hroom, Multiset.add_zero] at hlost
  refine ⟨?_, ?_⟩
  · rw [capacity_of_shell (r.shell_merge other)]
    exact h.capacity
  · rw [tries_merge, size_eq_add hlost, card_retained, h.tries, hother.tries]

end Sampling.Reservoir

namespace Events

variable {E P S T : Type} {N : Nat}

/-! ### Steps and sends -/

/-- A failure, if there is one, is a passing one. -/
def IsPassing (outcome : Outcome) : Prop := ∀ error, outcome = some error → error.isTransient

/-- **A step that records or harvests**, and so do the steps inside it. What is recorded
carries the number that it announced as its priority. -/
inductive Step.Collects [HasPriority E] : Step E P → Prop
  | record {app : String} {work : Work E} {onAsk onBuild : List (Step E P)}
      {onPriority : List (List (Step E P))}
      (hpriority : HasPriority.priority work.event = work.priority)
      (hnumber : Double.isNumber work.priority)
      (hask : ∀ s ∈ onAsk, Step.Collects s) (hbuild : ∀ s ∈ onBuild, Step.Collects s)
      (hturns : ∀ steps ∈ onPriority, ∀ s ∈ steps, Step.Collects s) :
      Step.Collects (.recordWith app work onAsk onBuild onPriority)
  | harvest (app : String) : Step.Collects (.harvest app)

section Passing

variable [HasPriority E]

/-- What a record on its way has ahead of it. -/
structure Job.Collects (job : Job E P) : Prop where
  priority : HasPriority.priority job.work.event = job.work.priority
  isNumber : Double.isNumber job.work.priority
  onBuild : ∀ steps, job.onBuild = some steps → ∀ s ∈ steps, s.Collects
  onPriority : ∀ steps ∈ job.onPriority, ∀ s ∈ steps, s.Collects

/-- A send that fails in passing at worst. -/
structure Reply.IsPassing (reply : Reply E P) : Prop where
  outcome : Events.IsPassing reply.outcome
  during : ∀ s ∈ reply.during, s.Collects

/-- A habit of failing in passing at worst: the output of a transmitter must be without fault. -/
def Habit.IsPassing : Habit E → Prop
  | .always outcome => Events.IsPassing outcome
  | .transmitting transmitter => transmitter.fault = none

/-- **A transport that fails in passing at worst.** -/
structure Transport.IsPassing (t : Transport E P) : Prop where
  planned : ∀ reply ∈ t.planned, reply.IsPassing
  habit : t.habit.IsPassing

omit [HasPriority E] in
theorem Habit.IsPassing.send {habit : Habit E} (h : habit.IsPassing) (batch : Batch E) :
    Events.IsPassing (habit.send batch).1 ∧ (habit.send batch).2.IsPassing := by
  cases habit with
  | always outcome => exact ⟨h, h⟩
  | transmitting transmitter =>
    change Events.IsPassing (transmitter.send batch).1 ∧ (transmitter.send batch).2.fault = none
    rw [transmitter.send_of_faultless h]
    split
    · exact ⟨fun error herror => Option.some.inj herror ▸ rfl, h⟩
    · exact ⟨fun error herror => absurd herror.symm (Option.some_ne_none error), h⟩

theorem Transport.IsPassing.send {t : Transport E P} (h : t.IsPassing) (batch : Batch E) :
    (t.send batch).1.IsPassing ∧ (t.send batch).2.IsPassing := by
  obtain ⟨hreplies, hhabit⟩ := h
  rw [Transport.send]
  split
  next reply rest hplanned =>
    rw [hplanned] at hreplies
    exact ⟨hreplies reply List.mem_cons_self,
      fun reply' hm => hreplies reply' (List.mem_cons_of_mem _ hm), hhabit⟩
  next hplanned =>
    obtain ⟨houtcome, hnext⟩ := hhabit.send batch
    exact ⟨⟨houtcome, fun s hs => absurd hs List.not_mem_nil⟩, hreplies, hnext⟩

end Passing

/-! ### The service -/

namespace Service

/-- A service that collects for all applications, with room for `N` events everywhere. -/
structure IsAmple (N : Nat) (s : Service E) : Prop where
  isActive : s.isActive
  enabled : ∀ app, (s.appSettings app).enabled
  remembered : ∀ app, s.remembered? app ≠ some false
  fresh : ∀ kind app decidedLast, N ≤ (s.freshReservoir kind app decidedLast).capacity
  backlog : N ≤ s.backlog.capacity

/-- Such a service, all of whose reservoirs have room, too. -/
structure IsCalm (N : Nat) (s : Service E) : Prop extends s.IsAmple N where
  pool : ∀ ref < s.pool.size, (s.reservoir ref).IsSpacious N

/-- A reservoir that is live or has been sealed: none that was forgotten while it was open. -/
def IsCurrent (s : Service E) (ref : Ref) : Prop :=
  (s.reservoir ref).isSealed ∨ ref ∈ s.live.all

theorem IsAmple.same {s s' : Service E} (h : s.IsAmple N) (hs : s.SameSettings s') :
    s'.IsAmple N where
  isActive := by rw [hs.isActive]; exact h.isActive
  enabled app := by rw [hs.appSettings]; exact h.enabled app
  remembered app := by rw [hs.remembered?]; exact h.remembered app
  fresh kind app decidedLast := by rw [hs.freshReservoir]; exact h.fresh kind app decidedLast
  backlog := by rw [hs.capacity]; exact h.backlog

theorem IsAmple.fst_askEnabled {s : Service E} (h : s.IsAmple N) (app : String) :
    (s.askEnabled app).1 = true :=
  s.fst_askEnabled (h.enabled app) (h.remembered app)

theorem IsAmple.askEnabled {s : Service E} (h : s.IsAmple N) (app : String) :
    (s.askEnabled app).2.IsAmple N := by
  have hremembered := fun app' => s.remembered?_askEnabled (h.enabled app') (h.remembered app') app
  unfold Service.askEnabled at hremembered ⊢
  split at hremembered
  · exact h
  · exact ⟨h.isActive, h.enabled, hremembered, h.fresh, h.backlog⟩

theorem IsCalm.sameReservoirs {s s' : Service E} (h : s.IsCalm N) (ha : s'.IsAmple N)
    (hs : s.SameReservoirs s') : s'.IsCalm N := by
  refine ⟨ha, fun ref hlt => ?_⟩
  rw [hs.reservoir]
  exact h.pool ref (hs.pool ▸ hlt)

/-- An operation on one reservoir that leaves it room. -/
theorem IsCalm.modify {s : Service E} (h : s.IsCalm N) (ref : Ref)
    {f : Sampling.Reservoir E → Sampling.Reservoir E}
    (hf : (s.reservoir ref).IsSpacious N → (f (s.reservoir ref)).IsSpacious N) :
    (s.modify ref f).IsCalm N := by
  refine ⟨h.toIsAmple.same (s.sameSettings_modify ref f), fun ref' hlt => ?_⟩
  rw [size_modify] at hlt
  by_cases heq : ref' = ref
  · subst heq
    rw [reservoir_modify_self hlt]
    exact hf (h.pool ref' hlt)
  · rw [s.reservoir_modify_of_ne heq]
    exact h.pool ref' hlt

theorem IsCalm.install {s : Service E} (h : s.IsCalm N) (kind : Kind) (app : String)
    (decidedLast : Nat) : (s.install kind app decidedLast).2.IsCalm N := by
  refine ⟨h.toIsAmple.same (s.sameSettings_install kind app decidedLast), fun ref hlt => ?_⟩
  rw [size_install] at hlt
  rcases Nat.lt_or_eq_of_le (Nat.le_of_lt_succ hlt) with hlt | rfl
  · rw [reservoir_install hlt]
    exact h.pool ref hlt
  · rw [reservoir_install_self]
    exact .empty (h.fresh kind app decidedLast)

theorem IsCalm.getOrCreate {s : Service E} (h : s.IsCalm N) (kind : Kind) (app : String) :
    (s.getOrCreate kind app).2.IsCalm N := by
  rw [Service.getOrCreate]
  split
  · exact h
  · exact h.install kind app 0

theorem IsCalm.swapOut {s : Service E} (h : s.IsCalm N) (kind : Kind) (app : String) :
    (s.swapOut kind app).2.IsCalm N := by
  have hi := h.install kind app (s.liveTries kind app)
  cases hr : s.liveRef? kind app with
  | none =>
    rw [swapOut_snd_of_none hr]
    exact hi
  | some ref =>
    rw [swapOut_snd_of_some hr]
    exact hi.modify ref fun hspacious => hspacious.sealed

theorem IsCalm.offer {s : Service E} (h : s.IsCalm N) {ref : Ref} {priority : Float}
    (ht : s.Takes ref priority) (event : E) : (s.offer ref priority event).2.IsCalm N :=
  h.modify ref fun hspacious =>
    hspacious.offer (ht.imp_right fun hlive => hlive.2) event

theorem IsCalm.mergeInto {s : Service E} (h : s.IsCalm N) {target source : Ref}
    (hsource : source < s.pool.size)
    (hroom : (s.reservoir target).size + (s.reservoir source).size ≤
      (s.reservoir target).capacity) : (s.mergeInto target source).IsCalm N := by
  rw [Service.mergeInto]
  split
  · exact h
  next hne =>
    refine (h.modify source fun hspacious => hspacious.drained).modify target fun hspacious => ?_
    rw [s.reservoir_modify_of_ne hne] at hspacious ⊢
    exact hspacious.merge (h.pool source hsource) hroom

/-- A reservoir stays current if it is only ever sealed when it is replaced. -/
theorem IsCurrent.grows {s s' : Service E} {ref : Ref} {spent : Ref → Prop} (h : s.IsCurrent ref)
    (hg : Grows spent s s') (hlt : ref < s.pool.size)
    (hlive : ∀ ref ∈ s.live.all, s'.IsCurrent ref) : s'.IsCurrent ref := by
  rcases h with hsealed | hl
  · exact .inl (hg.isSealed ref hlt hsealed)
  · exact hlive ref hl

theorem isCurrent_getOrCreate (s : Service E) (kind : Kind) (app : String) {ref : Ref}
    (hm : ref ∈ s.live.all) : (s.getOrCreate kind app).2.IsCurrent ref := by
  rw [getOrCreate]
  split
  · exact .inr hm
  next hnone =>
    refine .inr ?_
    have hall := s.live.all_set kind app s.pool.size
    change s.live.get? kind app = none at hnone
    rw [hnone] at hall
    change ref ∈ (s.live.set kind app s.pool.size).all
    rw [show (s.live.set kind app s.pool.size).all = s.pool.size ::ₘ s.live.all from
      (Multiset.add_zero _).symm.trans hall]
    exact Multiset.mem_cons_of_mem hm

theorem Sound.isCurrent_swapOut {s : Service E} {aside : Multiset Ref} (h : s.Sound aside)
    (kind : Kind) (app : String) {ref : Ref} (hm : ref ∈ s.live.all) :
    (s.swapOut kind app).2.IsCurrent ref := by
  obtain ⟨kind', app', hr⟩ := Store.mem_all_iff.1 hm
  have hlt := (h.live hr).lt
  by_cases hsame : kind' = kind ∧ app' = app
  · -- the one that is replaced
    obtain ⟨rfl, rfl⟩ := hsame
    have hr' : s.liveRef? kind' app' = some ref := hr
    left
    rw [swapOut_snd_of_some hr', reservoir_modify_self]
    · rfl
    · rw [size_install]
      exact Nat.lt_succ_of_lt hlt
  · have hlive : (s.swapOut kind app).2.liveRef? kind' app' = some ref := by
      have hinstall := s.liveRef?_install kind kind' app app' (s.liveTries kind app)
      rw [if_neg hsame] at hinstall
      cases hprevious : s.liveRef? kind app with
      | none =>
        rw [swapOut_snd_of_none hprevious]
        exact hinstall.trans hr
      | some previous =>
        rw [swapOut_snd_of_some hprevious]
        exact hinstall.trans hr
    exact .inr (Store.mem_all_iff.2 ⟨kind', app', hlive⟩)

/-! ### How much is held -/

/-- A batch holds something if its reservoir does. -/
theorem events_batch_ne_nil_iff {s : Service E} {ref : Ref} :
    (s.batch ref).events ≠ [] ↔ (s.reservoir ref).isEmpty = false := by
  have hlength : (s.batch ref).events.length = (s.reservoir ref).size :=
    Sampling.Reservoir.length_toList _
  rw [← List.length_pos_iff, hlength, Sampling.Reservoir.isEmpty, decide_eq_false_iff_not,
    Nat.pos_iff_ne_zero]

variable (label : String → T)

theorem size_le_card_stock {s : Service E} {ref : Ref} {refs : Multiset Ref} (hm : ref ∈ refs) :
    (s.reservoir ref).size ≤ (s.stock label refs).card := by
  obtain ⟨others, rfl⟩ := Multiset.exists_cons_of_mem hm
  rw [stock_cons, Multiset.card_add, Sampling.Reservoir.card_parcels]
  exact Nat.le_add_right _ _

/-- Reservoirs that hold something are no more than the events in them. -/
theorem card_le_card_stock {s : Service E} {refs : Multiset Ref}
    (h : ∀ ref ∈ refs, (s.reservoir ref).isEmpty = false) :
    refs.card ≤ (s.stock label refs).card := by
  induction refs using Multiset.induction with
  | empty => exact Nat.zero_le _
  | cons ref refs ih =>
    have hrest := ih fun ref' hm => h ref' (Multiset.mem_cons_of_mem hm)
    have hpos : (s.reservoir ref).size ≠ 0 := by
      simpa [Sampling.Reservoir.isEmpty] using h ref (Multiset.mem_cons_self ref refs)
    rw [Multiset.card_cons, stock_cons, Multiset.card_add, Sampling.Reservoir.card_parcels]
    omega

end Service

/-! ### Runs -/

section Runs

variable [HasPriority E]

/-- A frame that goes on with records and harvests only. -/
def Frame.IsCalm (s : Service E) : Frame E P → Prop
  | .steps rest => ∀ step ∈ rest, step.Collects
  | .asked _ job => job.Collects
  | .compete _ _ job => job.Collects
  | .built _ job _ goal => job.Collects ∧ ∀ ref, goal = some ref → s.IsCurrent ref
  | .offer _ _ job ref => job.Collects ∧ s.IsCurrent ref
  | .settleSynthetic _ _ flight => IsPassing flight.outcome ∧ flight.batch.events ≠ []
  | .settleOrdinary _ flight => IsPassing flight.outcome
  | _ => True

theorem Frame.IsCalm.grows {s s' : Service E} {f : Frame E P} {spent : Ref → Prop}
    (h : f.IsCalm s) (hfits : f.Fits s) (hg : Service.Grows spent s s')
    (hlive : ∀ ref ∈ s.live.all, s'.IsCurrent ref) : f.IsCalm s' := by
  cases f with
  | built app job namesVersion goal =>
    refine ⟨h.1, fun ref hgoal => ?_⟩
    subst hgoal
    have hb : s.Belongs .ordinary app ref := hfits
    exact (h.2 ref rfl).grows hg hb.lt hlive
  | offer kind app job ref =>
    have hb : s.Belongs kind app ref := hfits
    exact ⟨h.1, h.2.grows hg hb.lt hlive⟩
  | _ => exact h

namespace Run

/-- **A calm run**: it collects, there is room for `N` events, and sends fail in passing. -/
structure IsCalm (N : Nat) (r : Run E P S) : Prop where
  service : r.service.IsCalm N
  frames : ∀ f ∈ r.stack, f.IsCalm r.service
  /-- No empty batch waits. -/
  waiting : ∀ ref ∈ r.service.backlog.queue, (r.service.reservoir ref).isEmpty = false
  transport : r.transport.IsPassing
  /-- What was delivered counts as many tries as it holds events. -/
  delivered : ∀ b ∈ r.delivered, b.2.tries = b.2.events.length

variable {r r' : Run E P S} {hand : Multiset Ref}

theorem IsCalm.same (h : r.IsCalm N) (hservice : r'.service = r.service)
    (hstack : r'.stack = r.stack) (htransport : r'.transport = r.transport)
    (hdelivered : r'.delivered = r.delivered) : r'.IsCalm N where
  service := by rw [hservice]; exact h.service
  frames := by rw [hservice, hstack]; exact h.frames
  waiting := by rw [hservice]; exact h.waiting
  transport := by rw [htransport]; exact h.transport
  delivered := by rw [hdelivered]; exact h.delivered

theorem IsCalm.note (h : r.IsCalm N) {n : Note E} (hn : n.delivered? = none) :
    (r.note n).IsCalm N :=
  h.same (note_service r n) (note_stack r n) (note_transport r n)
    (by rw [delivered_note, hn]; rfl)

theorem IsCalm.logUnsent (h : r.IsCalm N) (app message : String) (error : TransmitError) :
    (r.logUnsent app message error).IsCalm N :=
  h.note rfl

theorem IsCalm.push (h : r.IsCalm N) {f : Frame E P} (hf : f.IsCalm r.service) :
    (r.push f).IsCalm N := by
  refine ⟨h.service, fun g hg => ?_, h.waiting, h.transport, h.delivered⟩
  rcases List.mem_cons.1 hg with rfl | hg
  · exact hf
  · exact h.frames g hg

theorem IsCalm.within (h : r.IsCalm N) {steps : List (Step E P)} {f : Frame E P}
    (hsteps : ∀ s ∈ steps, s.Collects) (hf : f.IsCalm r.service) : (r.within steps f).IsCalm N := by
  have hpush := h.push hf
  exact hpush.push hsteps

/-- The service changes, but no reservoir that a frame refers to is forgotten. -/
theorem IsCalm.withService (h : r.IsCalm N) (hs : r.Sound hand) {s : Service E}
    {spent : Ref → Prop} (hcalm : s.IsCalm N) (hg : Service.Grows spent r.service s)
    (hspent : ∀ ref ∈ r.aside, ¬ spent ref) (hqueue : s.backlog.queue = r.service.backlog.queue)
    (hlive : ∀ ref ∈ r.service.live.all, s.IsCurrent ref) : (r.withService s).IsCalm N := by
  refine ⟨hcalm, fun f hf => ?_, fun ref hm => ?_, h.transport, h.delivered⟩
  · exact (h.frames f hf).grows (hs.fits f hf) hg hlive
  · have hm' : ref ∈ r.service.backlog.queue := hqueue ▸ hm
    have haside : ref ∈ r.aside := Multiset.mem_add.2 (.inl (Multiset.mem_coe.2 hm'))
    have hmem : ref ∈ r.aside + hand := Multiset.mem_add.2 (.inl haside)
    change (s.reservoir ref).isEmpty = false
    rw [hg.frozen ref (hs.service.lt hmem) (hs.service.isSealed hmem) (hspent ref haside)]
    exact h.waiting ref hm'

theorem IsCalm.deliver (h : r.IsCalm N) (kind : Kind) {batch : Batch E}
    (htries : batch.tries = batch.events.length) :
    (r.note (.settled kind batch none)).IsCalm N := by
  refine ⟨?_, ?_, ?_, ?_, fun b hb => ?_⟩
  · rw [note_service]
    exact h.service
  · rw [note_service, note_stack]
    exact h.frames
  · rw [note_service]
    exact h.waiting
  · rw [note_transport]
    exact h.transport
  · rw [delivered_note] at hb
    rcases List.mem_cons.1 hb with rfl | hb
    · exact htries
    · exact h.delivered b hb

/-- The queue changes, and no empty batch gets into it. -/
theorem IsCalm.requeued (h : r.IsCalm N) (hs : r.Sound hand) {backlog : Backlog Ref}
    (hcapacity : backlog.capacity = r.service.backlog.capacity)
    (hwaiting : ∀ ref ∈ backlog.queue, (r.service.reservoir ref).isEmpty = false) :
    (r.withService { r.service with backlog := backlog }).IsCalm N := by
  have hample := h.service.toIsAmple
  have hbacklog : N ≤ backlog.capacity := by
    rw [hcapacity]
    exact hample.backlog
  refine ⟨⟨⟨hample.isActive, hample.enabled, hample.remembered, hample.fresh, hbacklog⟩,
    h.service.pool⟩, fun f hf => ?_, hwaiting, h.transport, h.delivered⟩
  exact (h.frames f hf).grows (hs.fits f hf) (r.service.grows_backlog (fun _ => False) backlog)
    fun ref hm => .inr hm

/-- A batch is handed over. -/
theorem IsCalm.send (h : r.IsCalm N) (kind : Kind) {ref : Ref}
    {settle : Flight E → Frame E P}
    (hsettle : ∀ flight, IsPassing flight.outcome → flight.batch = r.service.batch ref →
      (settle flight).IsCalm r.service) : (r.send kind ref settle).IsCalm N := by
  obtain ⟨hreply, hrest⟩ := h.transport.send _
  rw [send_eq]
  have hmoved : IsCalm N { r with transport := r.transportAfter ref } :=
    ⟨h.service, h.frames, h.waiting, hrest, h.delivered⟩
  refine IsCalm.within (hmoved.note rfl) hreply.during ?_
  rw [note_service]
  exact hsettle _ hreply.outcome rfl

omit [HasPriority E] in
/-- A live reservoir, and what is in hand, are part of the total. -/
theorem size_add_le (label : String → T) (r : Run E P S) (hand : Multiset Ref) {ref : Ref}
    (hm : ref ∈ r.service.live.all) :
    (r.service.reservoir ref).size + (r.service.stock label hand).card ≤
      (r.total label hand).card := by
  have hsize := Service.size_le_card_stock label (s := r.service) hm
  rw [Run.total, Service.holding, Service.stock_add, Service.stock_add]
  simp only [Multiset.card_add]
  omega

/-- Waiting batches, and what is in hand, are no more than there are events. -/
theorem IsCalm.size_backlog_le (h : r.IsCalm N) (label : String → T) (hand : Multiset Ref) :
    r.service.backlog.size + (r.service.stock label hand).card ≤ (r.total label hand).card := by
  have hsize : Multiset.card (r.service.backlog.queue : Multiset Ref) ≤
      (r.service.stock label r.service.backlog.queue).card :=
    Service.card_le_card_stock label h.waiting
  rw [Run.total, Service.holding, aside, Service.stock_add, Service.stock_add, Service.stock_add]
  simp only [Multiset.card_add, Multiset.coe_card] at hsize ⊢
  rw [Backlog.size]
  omega

end Run

end Runs

end Events

end Telemetry
