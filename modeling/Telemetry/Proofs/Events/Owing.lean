import Telemetry.Proofs.Events.Custody
import Telemetry.Proofs.Events.History
import Telemetry.Proofs.Sampling.Selection

/-!
# A run holds what it owes

Take a run in which events are recorded at the top and inside sends, and harvests are only
started at the top. At any point of it, what an application is owed is in three places: some of it
is *live*, some of it is being sent but *kept* in case the send fails, and some of it is still
*arriving*. `Run.Owes` is this account, where reservoirs stand for the levels that were offered to
them (`Reservoir.Summarises`) and not for the events that they retain. Only when a batch is put
together does the capacity show.

Harvests being started at the top only, at most one is going on. So the stack has the frames of
records above, then perhaps the frame of that harvest, and the steps at the top below
(`IsFlat`); and while an event is arriving, no harvest swaps the reservoir that it will go to.
-/

namespace Telemetry.Events

open Sampling (HasPriority Reservoir highest)
open Config (UnexpectedErrorPolicy)

variable {E P S : Type}

/-! ### Steps that submit events -/

/-- **A step that records an ordinary event**, and so do the steps inside it. The event carries
the number that was announced as its priority. -/
inductive Step.Submits [HasPriority E] : Step E P → Prop
  | record {app : String} {work : Work E} {onAsk onBuild : List (Step E P)}
      {onPriority : List (List (Step E P))} (hordinary : work.isSynthetic = false)
      (hpriority : HasPriority.priority work.event = work.priority)
      (hnumber : Double.isNumber work.priority)
      (hask : ∀ s ∈ onAsk, Step.Submits s) (hbuild : ∀ s ∈ onBuild, Step.Submits s)
      (hturns : ∀ steps ∈ onPriority, ∀ s ∈ steps, Step.Submits s) :
      Step.Submits (.recordWith app work onAsk onBuild onPriority)

section Submits

variable [HasPriority E]

/-- A step at the top: it submits events, or harvests. -/
def Step.IsRoutine (s : Step E P) : Prop := s.Submits ∨ ∃ app, s = .harvest app

/-- A transport inside whose sends events are submitted, at most. -/
def Transport.Submits (t : Transport E P) : Prop :=
  ∀ reply ∈ t.planned, ∀ s ∈ reply.during, s.Submits

theorem Transport.Submits.send {t : Transport E P} (h : t.Submits) (batch : Batch E) :
    (∀ s ∈ (t.send batch).1.during, s.Submits) ∧ (t.send batch).2.Submits :=
  Transport.forall_send h batch

/-- What a submitted event has ahead of it. -/
structure Job.Submits (job : Job E P) : Prop where
  isOrdinary : job.work.isSynthetic = false
  priority : HasPriority.priority job.work.event = job.work.priority
  isNumber : Double.isNumber job.work.priority
  onBuild : ∀ steps, job.onBuild = some steps → ∀ s ∈ steps, s.Submits
  onPriority : ∀ steps ∈ job.onPriority, ∀ s ∈ steps, s.Submits

/-! ### The shape of the stack -/

/-- A frame of a record, or of steps that submit events. -/
def Frame.Submits : Frame E P → Prop
  | .steps rest => ∀ s ∈ rest, s.Submits
  | .asked _ job => job.Submits
  | .compete .ordinary _ job => job.Submits
  | .built _ job _ (some _) => job.Submits
  | .offer .ordinary _ job _ => job.Submits
  | _ => False

/-- A frame of a harvest. -/
def Frame.IsHarvest : Frame E P → Prop
  | .drain .. => True
  | .settleSynthetic .. => True
  | .ordinary _ => True
  | .settleOrdinary .. => True
  | _ => False

/-- Only steps at the top are left. -/
def IsTop (stack : List (Frame E P)) : Prop :=
  ∀ f ∈ stack, ∃ steps, f = .steps steps ∧ ∀ s ∈ steps, s.IsRoutine

/-- **The shape of the stack**: records, above at most one harvest, above steps at the top. -/
inductive IsFlat : List (Frame E P) → Prop
  | top {stack : List (Frame E P)} (htop : IsTop stack) : IsFlat stack
  | harvest {f : Frame E P} {rest : List (Frame E P)} (hf : f.IsHarvest) (htop : IsTop rest) :
      IsFlat (f :: rest)
  | submit {f : Frame E P} {rest : List (Frame E P)} (hf : f.Submits) (hrest : IsFlat rest) :
      IsFlat (f :: rest)

theorem IsFlat.tail {f : Frame E P} {rest : List (Frame E P)} (h : IsFlat (f :: rest)) :
    IsFlat rest := by
  cases h with
  | top htop => exact .top fun g hg => htop g (List.mem_cons_of_mem f hg)
  | harvest _ htop => exact .top htop
  | submit _ hrest => exact hrest

/-- The shape of a stack with a frame of steps on top: the first step submits an event, or it is
a harvest and all is at the top. -/
theorem IsFlat.steps {s : Step E P} {steps : List (Step E P)} {rest : List (Frame E P)}
    (h : IsFlat (.steps (s :: steps) :: rest)) :
    IsFlat (.steps steps :: rest) ∧
      (s.Submits ∨ ((∃ app, s = .harvest app) ∧ IsTop (.steps steps :: rest))) := by
  cases h with
  | top htop =>
    obtain ⟨all, hall, hroutine⟩ := htop _ List.mem_cons_self
    obtain rfl := Frame.steps.inj hall
    have htop' : IsTop (.steps steps :: rest) := fun f hf => by
      rcases List.mem_cons.1 hf with rfl | hf
      · exact ⟨steps, rfl, fun s' hs' => hroutine s' (List.mem_cons_of_mem s hs')⟩
      · exact htop f (List.mem_cons_of_mem _ hf)
    exact ⟨.top htop', (hroutine s List.mem_cons_self).imp_right fun hharvest => ⟨hharvest, htop'⟩⟩
  | harvest hf _ => exact hf.elim
  | submit hf hrest =>
    exact ⟨.submit (fun s' hs' => hf s' (List.mem_cons_of_mem s hs')) hrest,
      .inl (hf s List.mem_cons_self)⟩

theorem IsFlat.submits {f : Frame E P} {rest : List (Frame E P)} (h : IsFlat (f :: rest))
    (hsteps : ∀ steps, f ≠ .steps steps) : f.Submits ∨ (f.IsHarvest ∧ IsTop rest) := by
  cases h with
  | top htop =>
    obtain ⟨steps, rfl, -⟩ := htop f List.mem_cons_self
    exact absurd rfl (hsteps steps)
  | harvest hf htop => exact .inr ⟨hf, htop⟩
  | submit hf _ => exact .inl hf

end Submits

/-! ### What is owed, by level -/

/-- The levels of record calls. -/
def levelsOf (calls : List (Work E)) : Multiset Int :=
  (calls.map fun work => Double.level work.priority : List Int)

/-- What is settled about an application for a whole run. -/
structure Terms where
  app : String
  capacity : Nat
  policy : UnexpectedErrorPolicy

/-- The level of an event on its way, if it is for the application. -/
def Job.arriving (terms : Terms) (app : String) (job : Job E P) : Multiset Int :=
  if app = terms.app then {Double.level job.work.priority} else 0

namespace Frame

variable (terms : Terms)

/-- The level of the event that a frame will offer, if it is for the application. -/
def arriving : Frame E P → Multiset Int
  | .asked app job => job.arriving terms app
  | .compete _ app job => job.arriving terms app
  | .built app job _ _ => job.arriving terms app
  | .offer _ app job _ => job.arriving terms app
  | _ => 0

/-- The reservoir of the application that is being sent and will be retried. -/
def kept? : Frame E P → Option Ref
  | .settleOrdinary app flight =>
    if app = terms.app ∧ isKept terms.policy flight.outcome then some flight.ref else none
  | _ => none

/-- The reservoir that the event of the application will be offered to. -/
def goal? : Frame E P → Option Ref
  | .built app _ _ (some ref) => if app = terms.app then some ref else none
  | .offer .ordinary app _ ref => if app = terms.app then some ref else none
  | _ => none

variable {terms} {f : Frame E P}

theorem Submits.kept?_eq [HasPriority E] (h : f.Submits) : f.kept? terms = none := by
  cases f with
  | settleOrdinary app flight => exact h.elim
  | _ => rfl

theorem IsHarvest.arriving_eq (h : f.IsHarvest) : f.arriving terms = 0 := by
  cases f with
  | asked | compete | built | offer => exact h.elim
  | _ => rfl

theorem IsHarvest.goal?_eq (h : f.IsHarvest) : f.goal? terms = none := by
  cases f with
  | built | offer => exact h.elim
  | _ => rfl

end Frame

section Top

variable [HasPriority E] {terms : Terms} {stack : List (Frame E P)}

theorem IsTop.kept?_eq (h : IsTop stack) : stack.findSome? (Frame.kept? terms) = none := by
  refine List.findSome?_eq_none_iff.2 fun f hf => ?_
  obtain ⟨steps, rfl, -⟩ := h f hf
  rfl

theorem IsTop.goal?_eq (h : IsTop stack) {f : Frame E P} (hf : f ∈ stack) :
    f.goal? terms = none := by
  obtain ⟨steps, rfl, -⟩ := h f hf
  rfl

theorem IsTop.arriving_eq (h : IsTop stack) : (stack.map (Frame.arriving terms)).sum = 0 := by
  refine List.sum_eq_zero fun levels hlevels => ?_
  obtain ⟨f, hf, rfl⟩ := List.mem_map.1 hlevels
  obtain ⟨steps, rfl, -⟩ := h f hf
  rfl

end Top

/-! ### The service -/

namespace Service

variable {terms : Terms} {app app' : String} {kind : Kind} {ref : Ref} {s s' s'' : Service E}

/-- The service collects for the application, on the terms given. -/
structure IsSteady (terms : Terms) (s : Service E) : Prop where
  isActive : s.isActive
  enabled : (s.appSettings terms.app).enabled
  remembered : s.remembered? terms.app ≠ some false
  capacity : (s.appSettings terms.app).maxSamplesStored = terms.capacity
  policy : s.settings.harvest.unexpectedErrors = terms.policy

theorem IsSteady.same (h : s.IsSteady terms) (hs : s.SameSettings s') : s'.IsSteady terms where
  isActive := by rw [hs.isActive]; exact h.isActive
  enabled := by rw [hs.appSettings]; exact h.enabled
  remembered := by rw [hs.remembered?]; exact h.remembered
  capacity := by rw [hs.appSettings]; exact h.capacity
  policy := by rw [hs.settings]; exact h.policy

theorem IsSteady.askEnabled (h : s.IsSteady terms) (app : String) :
    (s.askEnabled app).2.IsSteady terms := by
  have hremembered := s.remembered?_askEnabled h.enabled h.remembered app
  unfold Service.askEnabled at hremembered ⊢
  split at hremembered
  · exact h
  · exact ⟨h.isActive, h.enabled, hremembered, h.capacity, h.policy⟩

/-- What a reservoir stands for, if there is one; otherwise nothing. -/
def StandsFor (s : Service E) [HasPriority E] (terms : Terms) (levels : Multiset Int) :
    Option Ref → Prop
  | none => levels = 0
  | some ref => (s.reservoir ref).Summarises terms.capacity levels

theorem StandsFor.congr [HasPriority E] {levels : Multiset Int} {ref? : Option Ref}
    (h : s.StandsFor terms levels ref?)
    (hs : ∀ ref, ref? = some ref → s'.reservoir ref = s.reservoir ref) :
    s'.StandsFor terms levels ref? := by
  cases ref? with
  | none => exact h
  | some ref =>
    change (s'.reservoir ref).Summarises terms.capacity levels
    rw [hs ref rfl]
    exact h

/-! ### What reservoirs stand for -/

section StandsFor

variable [HasPriority E] {levels levels' : Multiset Int}

theorem standsFor_install (h : s.IsSteady terms) (decidedLast : Nat) :
    (s.install .ordinary terms.app decidedLast).2.StandsFor terms 0
      ((s.install .ordinary terms.app decidedLast).2.liveRef? .ordinary terms.app) := by
  rw [liveRef?_install, if_pos ⟨rfl, rfl⟩, StandsFor, reservoir_install_self, ← h.capacity]
  exact Reservoir.summarises_empty ..

/-- After a swap, the live reservoir stands for nothing, and the one that was live before for
what it did. -/
theorem Sound.standsFor_swapOut {aside : Multiset Ref} (hs : s.Sound aside)
    (hsteady : s.IsSteady terms)
    (h : s.StandsFor terms levels (s.liveRef? .ordinary terms.app)) :
    (s.swapOut .ordinary terms.app).2.StandsFor terms 0
        ((s.swapOut .ordinary terms.app).2.liveRef? .ordinary terms.app) ∧
      (s.swapOut .ordinary terms.app).2.StandsFor terms levels
        (s.liveRef? .ordinary terms.app) := by
  have hinstall := standsFor_install hsteady (s.liveTries .ordinary terms.app)
  cases hr : s.liveRef? .ordinary terms.app with
  | none =>
    rw [hr] at h
    rw [swapOut_snd_of_none hr]
    exact ⟨hinstall, h⟩
  | some ref =>
    rw [hr] at h
    have hlt := (hs.live hr).lt
    rw [swapOut_snd_of_some hr]
    refine ⟨hinstall.congr fun ref' hr' => reservoir_modify_of_ne _ ?_ _, ?_⟩
    · rw [liveRef?_install, if_pos ⟨rfl, rfl⟩] at hr'
      obtain rfl := Option.some.inj hr'
      exact Nat.ne_of_gt hlt
    · rw [StandsFor, reservoir_modify_self, reservoir_install hlt]
      · exact Reservoir.Summarises.sealed h
      · rw [size_install]
        exact Nat.lt_succ_of_lt hlt

theorem standsFor_mergeInto {target source : Ref} (hlt : target < s.pool.size)
    (hne : target ≠ source) (h : s.StandsFor terms levels (some target))
    (h' : s.StandsFor terms levels' (some source)) :
    (s.mergeInto target source).StandsFor terms (levels + levels') (some target) := by
  rw [StandsFor, reservoir_mergeInto_self hlt hne]
  exact Reservoir.Summarises.merge h h'

end StandsFor

/-! ### What is spared -/

/-- **Nothing happened to the ordinary events of an application.** -/
structure Spares (app : String) (s s' : Service E) : Prop where
  size : s.pool.size ≤ s'.pool.size
  live : s'.liveRef? .ordinary app = s.liveRef? .ordinary app
  reservoir : ∀ {ref}, s.Belongs .ordinary app ref → s'.reservoir ref = s.reservoir ref

theorem Spares.trans (h : s.Spares app s') (h' : s'.Spares app s'') : s.Spares app s'' where
  size := h.size.trans h'.size
  live := h'.live.trans h.live
  reservoir {ref} hb := by
    have hsame := h.reservoir hb
    have hb' : s'.Belongs .ordinary app ref :=
      ⟨Nat.lt_of_lt_of_le hb.lt h.size, by rw [hsame]; exact hb.app,
        by rw [hsame]; exact hb.service⟩
    rw [h'.reservoir hb', hsame]

theorem spares_of_pool_eq (hpool : s'.pool = s.pool)
    (hlive : s'.liveRef? .ordinary app = s.liveRef? .ordinary app) : s.Spares app s' where
  size := le_of_eq (congrArg Array.size hpool).symm
  live := hlive
  reservoir _ := by rw [Service.reservoir, Service.reservoir, hpool]

theorem SameReservoirs.spares (h : s.SameReservoirs s') (app : String) : s.Spares app s' :=
  spares_of_pool_eq h.pool (h.liveRef? .ordinary app)

theorem Belongs.not_belongs (h : s.Belongs kind app' ref)
    (hother : ¬ (kind = .ordinary ∧ app' = app)) :
    ¬ s.Belongs .ordinary app ref := fun hb => hother (h.unique hb)

theorem spares_modify (hb : ¬ s.Belongs .ordinary app ref) (f : Reservoir E → Reservoir E) :
    s.Spares app (s.modify ref f) where
  size := le_of_eq (s.size_modify ref f).symm
  live := rfl
  reservoir {ref'} hb' := s.reservoir_modify_of_ne (by rintro rfl; exact hb hb') f

theorem spares_install (s : Service E) (hother : ¬ (kind = .ordinary ∧ app' = app))
    (decidedLast : Nat) : s.Spares app (s.install kind app' decidedLast).2 where
  size := by rw [size_install]; exact Nat.le_succ _
  live := by
    rw [liveRef?_install, if_neg]
    rintro ⟨rfl, rfl⟩
    exact hother ⟨rfl, rfl⟩
  reservoir hb := reservoir_install hb.lt kind app' decidedLast

theorem spares_getOrCreate (s : Service E) (hother : ¬ (kind = .ordinary ∧ app' = app)) :
    s.Spares app (s.getOrCreate kind app').2 := by
  rw [getOrCreate]
  split
  · exact (SameReservoirs.refl s).spares app
  · exact s.spares_install hother 0

theorem Sound.spares_swapOut {aside : Multiset Ref} (h : s.Sound aside)
    (hother : ¬ (kind = .ordinary ∧ app' = app)) : s.Spares app (s.swapOut kind app').2 := by
  have hinstall := s.spares_install hother (s.liveTries kind app')
  cases hr : s.liveRef? kind app' with
  | none =>
    rw [swapOut_snd_of_none hr]
    exact hinstall
  | some ref =>
    rw [swapOut_snd_of_some hr]
    have hb := (h.live hr).grows
      (s.grows_install (fun _ => False) kind app' (s.liveTries kind app'))
    exact hinstall.trans (spares_modify (hb.not_belongs hother) _)

theorem spares_removeOrdinary (s : Service E) (hother : app' ≠ app) :
    s.Spares app (s.removeOrdinary app') := by
  refine spares_of_pool_eq rfl ?_
  change (s.live.remove .ordinary app').get? .ordinary app = s.live.get? .ordinary app
  rw [Store.get?_remove, if_neg fun hcon => hother hcon.2.symm]

theorem spares_mergeInto {target source : Ref} (htarget : s.Belongs kind app' target)
    (hsource : s.Belongs kind app' source) (hother : ¬ (kind = .ordinary ∧ app' = app)) :
    s.Spares app (s.mergeInto target source) := by
  rw [mergeInto]
  split
  · exact (SameReservoirs.refl s).spares app
  · have hgrows := s.grows_modify (fun _ => True) source (fun r => r.shell_drained) (fun _ h => h)
      (.inl trivial)
    have hdrained := spares_modify (hsource.not_belongs hother) (·.drained)
    exact hdrained.trans (spares_modify ((htarget.grows hgrows).not_belongs hother) _)

end Service

/-! ### The account of a run -/

namespace Run

variable [HasPriority E] {terms : Terms} {past : List (Moment E)} {r r' : Run E P S}
  {hand : Multiset Int} {calls : List (Work E)} {held : Multiset Ref}

/-- The reservoir of the application that is being sent and will be retried. -/
def kept? (terms : Terms) (r : Run E P S) : Option Ref := r.stack.findSome? (Frame.kept? terms)

/-- **The account of what is owed**: it is live, kept, arriving, or in hand. The attempts so far
are those of the `past`. -/
structure Owes (terms : Terms) (past : List (Moment E)) (r : Run E P S) (hand : Multiset Int)
    (calls : List (Work E)) : Prop where
  service : r.service.IsSteady terms
  transport : r.transport.Submits
  flat : IsFlat r.stack
  /-- An event goes to the reservoir that is live. -/
  goals : ∀ f ∈ r.stack, ∀ ref, f.goal? terms = some ref →
    r.service.liveRef? .ordinary terms.app = some ref
  sent : r.sent = past
  account : ∃ live kept,
    r.service.StandsFor terms live (r.service.liveRef? .ordinary terms.app) ∧
    r.service.StandsFor terms kept (r.kept? terms) ∧
    levelsOf calls = live + kept + (r.stack.map (Frame.arriving terms)).sum + hand

/-! ### Moves that leave the events alone -/

theorem Owes.same (h : r.Owes terms past hand calls) (hservice : r'.service = r.service)
    (hstack : r'.stack = r.stack) (htransport : r'.transport = r.transport)
    (hsent : r'.sent = r.sent) : r'.Owes terms past hand calls := by
  refine ⟨?_, ?_, ?_, ?_, ?_, ?_⟩
  · rw [hservice]
    exact h.service
  · rw [htransport]
    exact h.transport
  · rw [hstack]
    exact h.flat
  · rw [hservice, hstack]
    exact h.goals
  · rw [hsent]
    exact h.sent
  · rw [Run.kept?, hservice, hstack]
    exact h.account

theorem Owes.note (h : r.Owes terms past hand calls) {n : Note E} (hn : n.IsQuiet) :
    (r.note n).Owes terms past hand calls :=
  h.same (note_service r n) (note_stack r n) (note_transport r n)
    (by rw [sent_note, hn.sent]; rfl)

theorem Owes.logUnsent (h : r.Owes terms past hand calls) (app message : String)
    (error : TransmitError) : (r.logUnsent app message error).Owes terms past hand calls :=
  h.note (Note.isQuiet_record _)

/-- The frame of a record takes over the event. -/
theorem Owes.push {f : Frame E P} {given : Multiset Int} (h : r.Owes terms past given calls)
    (hf : f.Submits) (hgiven : given = f.arriving terms + hand)
    (hgoal : ∀ ref, f.goal? terms = some ref → r.service.liveRef? .ordinary terms.app = some ref) :
    (r.push f).Owes terms past hand calls := by
  obtain ⟨live, kept, hlive, hkept, hsum⟩ := h.account
  refine ⟨h.service, h.transport, .submit hf h.flat, fun g hg ref => ?_, h.sent,
    live, kept, hlive, ?_, ?_⟩
  · rcases List.mem_cons.1 hg with rfl | hg
    · exact hgoal ref
    · exact h.goals g hg ref
  · rw [Run.kept?, Run.push, List.findSome?_cons, hf.kept?_eq]
    exact hkept
  · rw [hsum, hgiven, Run.push, List.map_cons, List.sum_cons]
    abel

theorem Owes.within {f : Frame E P} {given : Multiset Int} (h : r.Owes terms past given calls)
    {steps : List (Step E P)} (hsteps : ∀ s ∈ steps, s.Submits) (hf : f.Submits)
    (hgiven : given = f.arriving terms + hand)
    (hgoal : ∀ ref, f.goal? terms = some ref → r.service.liveRef? .ordinary terms.app = some ref) :
    (r.within steps f).Owes terms past hand calls := by
  have hpush := h.push hf hgiven hgoal
  exact hpush.push (f := .steps steps) hsteps (Multiset.zero_add hand).symm
    fun ref hnone => nomatch hnone

/-- The frame of a harvest comes on top of the steps at the top. -/
theorem Owes.pushHarvest (h : r.Owes terms past hand calls) (htop : IsTop r.stack) {f : Frame E P}
    (hf : f.IsHarvest) (hkept : f.kept? terms = none) : (r.push f).Owes terms past hand calls := by
  obtain ⟨live, kept, hlive, hkept', hsum⟩ := h.account
  refine ⟨h.service, h.transport, .harvest hf htop, fun g hg ref hgoal => ?_, h.sent,
    live, kept, hlive, ?_, ?_⟩
  · rcases List.mem_cons.1 hg with rfl | hg
    · rw [hf.goal?_eq] at hgoal
      nomatch hgoal
    · exact h.goals g hg ref hgoal
  · rw [Run.kept?, Run.push, List.findSome?_cons, hkept]
    exact hkept'
  · rw [hsum, Run.push, List.map_cons, List.sum_cons, hf.arriving_eq, Multiset.zero_add]

/-- The service changes, but not the reservoirs that matter. -/
theorem Owes.withService (h : r.Owes terms past hand calls) {s : Service E}
    (hsteady : s.IsSteady terms)
    (hlive : s.liveRef? .ordinary terms.app = r.service.liveRef? .ordinary terms.app)
    (hreservoir : ∀ ref, r.service.liveRef? .ordinary terms.app = some ref ∨
      r.kept? terms = some ref → s.reservoir ref = r.service.reservoir ref) :
    (r.withService s).Owes terms past hand calls := by
  obtain ⟨live, kept, hlive', hkept, hsum⟩ := h.account
  refine ⟨hsteady, h.transport, h.flat, fun f hf ref hgoal => ?_, h.sent, live, kept, ?_, ?_, hsum⟩
  · change s.liveRef? .ordinary terms.app = some ref
    rw [hlive]
    exact h.goals f hf ref hgoal
  · change s.StandsFor terms live (s.liveRef? .ordinary terms.app)
    rw [hlive]
    exact hlive'.congr fun ref hr => hreservoir ref (.inl hr)
  · exact hkept.congr fun ref hr => hreservoir ref (.inr hr)

omit [HasPriority E] in
/-- What is kept is a sealed reservoir of the application. -/
theorem Sound.of_kept? (hs : r.Sound held) {ref : Ref} (hkept : r.kept? terms = some ref) :
    r.service.Belongs .ordinary terms.app ref ∧ (r.service.reservoir ref).isSealed := by
  obtain ⟨f, hf, hkept⟩ := List.exists_of_findSome?_eq_some hkept
  cases f with
  | settleOrdinary app flight =>
    have hfits := (hs.fits _ hf).2
    have hmem : flight.ref ∈ r.aside + held :=
      Multiset.mem_add.2 (.inl (mem_aside_of_flight hf rfl))
    change (if app = terms.app ∧ isKept terms.policy flight.outcome then some flight.ref
      else none) =
      some ref at hkept
    split at hkept
    next happ =>
      obtain rfl := Option.some.inj hkept
      exact ⟨happ.1 ▸ hfits, hs.service.isSealed hmem⟩
    next => nomatch hkept
  | _ => nomatch hkept

/-- Nothing happens to the application. -/
theorem Owes.spared (h : r.Owes terms past hand calls) (hs : r.Sound held) {s : Service E}
    (hsteady : s.IsSteady terms) (hspares : r.service.Spares terms.app s) :
    (r.withService s).Owes terms past hand calls := by
  refine h.withService hsteady hspares.live fun ref hr => hspares.reservoir ?_
  rcases hr with hlive | hkept
  · exact hs.service.live hlive
  · exact (hs.of_kept? hkept).1

/-! ### Moves of events -/

/-- **A live reservoir takes over** the level in hand. -/
theorem Owes.admit {level : Int} (h : r.Owes terms past (level ::ₘ hand) calls)
    (hs : r.Sound held) {ref : Ref} (hlive : r.service.liveRef? .ordinary terms.app = some ref)
    {f : Reservoir E → Reservoir E}
    (hf : ∀ levels, (r.service.reservoir ref).Summarises terms.capacity levels →
      (f (r.service.reservoir ref)).Summarises terms.capacity (level ::ₘ levels)) :
    (r.withService (r.service.modify ref f)).Owes terms past hand calls := by
  obtain ⟨live, kept, hlive', hkept, hsum⟩ := h.account
  rw [hlive] at hlive'
  refine ⟨h.service.same (r.service.sameSettings_modify ref f), h.transport, h.flat, h.goals,
    h.sent, level ::ₘ live, kept, ?_, hkept.congr fun ref' hr => ?_, ?_⟩
  · change (r.service.modify ref f).StandsFor terms _ (r.service.liveRef? .ordinary terms.app)
    rw [hlive]
    change ((r.service.modify ref f).reservoir ref).Summarises terms.capacity _
    rw [Service.reservoir_modify_self (hs.service.live hlive).lt]
    exact hf live hlive'
  · -- what is kept is sealed, and what is live is not
    refine r.service.reservoir_modify_of_ne (fun heq => ?_) f
    have hsealed := (hs.of_kept? hr).2
    rw [heq, hs.service.isOpen hlive] at hsealed
    exact Bool.false_ne_true hsealed
  · rw [hsum]
    simp only [Multiset.cons_add, Multiset.add_cons]
    rfl

/-- A live reservoir is made if there is none. -/
theorem Owes.getOrCreate (h : r.Owes terms past hand calls) (hs : r.Sound held) (app : String) :
    (r.withService (r.service.getOrCreate .ordinary app).2).Owes terms past hand calls := by
  have hsteady := h.service.same (r.service.sameSettings_getOrCreate .ordinary app)
  by_cases happ : app = terms.app
  · subst happ
    unfold Service.getOrCreate at hsteady ⊢
    split
    next => exact h
    next hnone =>
      obtain ⟨live, kept, hlive, hkept, hsum⟩ := h.account
      rw [hnone] at hlive
      refine ⟨h.service.same (r.service.sameSettings_install ..), h.transport, h.flat,
        fun f hf ref hgoal => ?_, h.sent, live, kept, ?_, hkept.congr fun ref hr => ?_, hsum⟩
      · have hcon := h.goals f hf ref hgoal
        rw [hnone] at hcon
        nomatch hcon
      · obtain rfl : live = 0 := hlive
        exact Service.standsFor_install h.service 0
      · exact Service.reservoir_install (hs.of_kept? hr).1.lt ..
  · exact h.spared hs hsteady (r.service.spares_getOrCreate fun hcon => happ hcon.2)

/-! ### Moves of whole reservoirs -/

/-- At the top, all that is owed is live or in hand. -/
theorem Owes.live_of_isTop (h : r.Owes terms past hand calls) (htop : IsTop r.stack) :
    ∃ live, r.service.StandsFor terms live (r.service.liveRef? .ordinary terms.app) ∧
      levelsOf calls = live + hand := by
  obtain ⟨live, kept, hlive, hkept, hsum⟩ := h.account
  rw [Run.kept?, htop.kept?_eq] at hkept
  obtain rfl : kept = 0 := hkept
  rw [htop.arriving_eq, Multiset.add_zero, Multiset.add_zero] at hsum
  exact ⟨live, hlive, hsum⟩

/-- A state in which only steps at the top are left, put together from what is live. -/
theorem owes_of_isTop (hservice : r.service.IsSteady terms) (htransport : r.transport.Submits)
    (htop : IsTop r.stack) (hsent : r.sent = past) {live : Multiset Int}
    (hlive : r.service.StandsFor terms live (r.service.liveRef? .ordinary terms.app))
    (hsum : levelsOf calls = live + hand) : r.Owes terms past hand calls := by
  refine ⟨hservice, htransport, .top htop, fun f hf ref hgoal => ?_, hsent, live, 0, hlive, ?_, ?_⟩
  · rw [htop.goal?_eq hf] at hgoal
    nomatch hgoal
  · rw [Run.kept?, htop.kept?_eq]
    rfl
  · rw [htop.arriving_eq, Multiset.add_zero, Multiset.add_zero]
    exact hsum

/-- **A swap** takes in hand all that is owed, and the reservoir that was live stands for it. -/
theorem Owes.swapOut (h : r.Owes terms past 0 calls) (hs : r.Sound held) (htop : IsTop r.stack) :
    (r.withService (r.service.swapOut .ordinary terms.app).2).Owes terms past (levelsOf calls)
        calls ∧
      (r.service.swapOut .ordinary terms.app).2.StandsFor terms (levelsOf calls)
        (r.service.liveRef? .ordinary terms.app) := by
  obtain ⟨live, hlive, hsum⟩ := h.live_of_isTop htop
  obtain rfl : levelsOf calls = live := hsum.trans (Multiset.add_zero live)
  obtain ⟨hfresh, hswapped⟩ := hs.service.standsFor_swapOut h.service hlive
  exact ⟨owes_of_isTop (h.service.same (r.service.sameSettings_swapOut .ordinary terms.app))
    h.transport htop h.sent hfresh (Multiset.zero_add _).symm, hswapped⟩

/-- **A merge** puts back what is in hand. -/
theorem Owes.mergeInto {source target : Ref} (h : r.Owes terms past hand calls)
    (hs : r.Sound (held + {source})) (htop : IsTop r.stack)
    (htarget : r.service.liveRef? .ordinary terms.app = some target)
    (hsource : r.service.StandsFor terms hand (some source)) :
    (r.withService (r.service.mergeInto target source)).Owes terms past 0 calls := by
  obtain ⟨live, hlive, hsum⟩ := h.live_of_isTop htop
  rw [htarget] at hlive
  have hne : target ≠ source := by
    rintro rfl
    exact hs.notMem (Multiset.mem_add.2 (.inl (Store.mem_all_iff.2 ⟨_, _, htarget⟩)))
  have hmerged := Service.standsFor_mergeInto (hs.service.live htarget).lt hne hlive hsource
  have hlive' : (r.service.mergeInto target source).liveRef? .ordinary terms.app = some target := by
    rw [Service.mergeInto, if_neg hne]
    exact htarget
  rw [← hlive'] at hmerged
  exact owes_of_isTop (h.service.same (r.service.sameSettings_mergeInto target source))
    h.transport htop h.sent hmerged (hsum.trans (Multiset.add_zero _).symm)

/-- **A send** hands over a batch. What is in hand is owed no more, unless it is kept. -/
theorem Owes.send (h : r.Owes terms past hand calls) (htop : IsTop r.stack) (kind : Kind)
    (ref : Ref) (settle : Flight E → Frame E P) (hsettle : ∀ flight, (settle flight).IsHarvest)
    (kept : Multiset Int) {calls' : List (Work E)}
    (hkept : r.service.StandsFor terms kept
      ((settle ⟨ref, r.service.batch ref, (r.replyTo ref).outcome⟩).kept? terms))
    (hcalls : levelsOf calls' + hand = levelsOf calls + kept) :
    (r.send kind ref settle).Owes terms
      (.sent kind (r.service.batch ref) (r.replyTo ref).outcome :: past) 0 calls' := by
  obtain ⟨live, hlive, hsum⟩ := h.live_of_isTop htop
  obtain ⟨hduring, hnext⟩ := h.transport.send _
  have hservice : (r.send kind ref settle).service = r.service := note_service _ _
  have hstack : (r.send kind ref settle).stack = .steps (r.replyTo ref).during ::
      settle ⟨ref, r.service.batch ref, (r.replyTo ref).outcome⟩ :: r.stack := by
    rw [send_eq, stack_within, note_stack]
  have htransport : (r.send kind ref settle).transport = r.transportAfter ref := note_transport _ _
  have hsent : (r.send kind ref settle).sent =
      .sent kind (r.service.batch ref) (r.replyTo ref).outcome :: r.sent := by
    rw [send_eq]
    exact sent_note _ _
  have hflat : IsFlat (r.send kind ref settle).stack := by
    rw [hstack]
    exact .submit hduring (.harvest (hsettle _) htop)
  refine ⟨hservice ▸ h.service, htransport ▸ hnext, hflat, fun f hf ref' hgoal => ?_, ?_,
    live, kept, ?_, ?_, ?_⟩
  · rw [hstack] at hf
    rcases List.mem_cons.1 hf with rfl | hf
    · nomatch hgoal
    · rcases List.mem_cons.1 hf with rfl | hf
      · rw [(hsettle _).goal?_eq] at hgoal
        nomatch hgoal
      · rw [htop.goal?_eq hf] at hgoal
        nomatch hgoal
  · rw [hsent, h.sent]
  · rw [hservice]
    exact hlive
  · rw [Run.kept?, hservice, hstack, List.findSome?_cons]
    change Service.StandsFor _ _ _ (List.findSome? _ (_ :: r.stack))
    rw [List.findSome?_cons, htop.kept?_eq]
    generalize (settle _).kept? terms = ref? at hkept ⊢
    cases ref? <;> exact hkept
  · rw [hstack, List.map_cons, List.map_cons, List.sum_cons, List.sum_cons,
      (hsettle _).arriving_eq, htop.arriving_eq]
    change levelsOf calls' = live + kept + (0 + (0 + 0)) + 0
    rw [hsum] at hcalls
    simp only [Multiset.add_zero]
    refine add_right_cancel (hcalls.trans ?_)
    abel

/-- A frame that is taken off the stack leaves in hand what it was to offer, or to retry. -/
theorem Owes.pop (h : r.Owes terms past 0 calls) {f : Frame E P} {rest : List (Frame E P)}
    (hstack : r.stack = f :: rest) :
    ∃ kept, r.service.StandsFor terms kept (f.kept? terms) ∧
      Owes terms past { r with stack := rest } (f.arriving terms + kept) calls := by
  obtain ⟨live, kept, hlive, hkept, hsum⟩ := h.account
  have hflat := h.flat
  rw [hstack] at hflat
  have hgoals : ∀ g ∈ rest, ∀ ref, g.goal? terms = some ref →
      r.service.liveRef? .ordinary terms.app = some ref := fun g hg =>
    h.goals g (by rw [hstack]; exact List.mem_cons_of_mem f hg)
  rw [hstack, List.map_cons, List.sum_cons, Multiset.add_zero] at hsum
  rw [Run.kept?, hstack, List.findSome?_cons] at hkept
  cases hf : f.kept? terms with
  | none =>
    rw [hf] at hkept
    refine ⟨0, rfl, h.service, h.transport, hflat.tail, hgoals, h.sent, live, kept, hlive, hkept,
      ?_⟩
    rw [hsum]
    change _ = live + kept + (rest.map (Frame.arriving terms)).sum + (f.arriving terms + 0)
    abel
  | some ref =>
    rw [hf] at hkept
    -- only the frame of a harvest keeps anything, and there is no other below it
    have htop : IsTop rest := by
      cases hflat with
      | top htop =>
        obtain ⟨steps, rfl, -⟩ := htop f List.mem_cons_self
        nomatch hf
      | harvest _ htop => exact htop
      | submit hsubmits _ =>
        rw [hsubmits.kept?_eq] at hf
        nomatch hf
    refine ⟨kept, hkept, owes_of_isTop h.service h.transport htop h.sent hlive ?_⟩
    rw [hsum, htop.arriving_eq]
    abel

end Run

end Telemetry.Events
