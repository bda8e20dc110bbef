import Telemetry.Proofs.Events.Custody
import Telemetry.Simulation.Event

/-!
# No event is in two places

Every function of a run keeps what it is given, in the sense of `Run.Kept`; one lemma for each
follows. Recording is the only one that is given anything.

The kinds may be told apart by the labels, or not. A synthetic event that its own reservoir
turns away competes with ordinary ones afterwards, so if they are told apart, that must be out
of the question.

The conclusion is `Run.nodup_places`: **in every state of every run, each event is in at most
one place**, provided that no event is recorded twice.
-/

namespace Telemetry.Events

open Sampling (HasPriority Offer)
open Sampling.Reservoir (accepted)
open Service (Grows)

variable {E P S T : Type}

/-! ### Room for an event -/

/-- Whichever live reservoir of the application an event competes for, there is room for it,
also in a new one. -/
structure Service.HasRoom [HasPriority E] (s : Service E) (app : String) (work : Work E) :
    Prop where
  isNumber : Double.isNumber work.priority
  isNumber_event : Double.isNumber (HasPriority.priority work.event)
  live : ∀ kind ref, s.liveRef? kind app = some ref →
    (s.reservoir ref).size < (s.reservoir ref).capacity
  fresh : ∀ kind, 0 < (s.freshReservoir kind app 0).capacity

theorem Service.HasRoom.same [HasPriority E] {s s' : Service E} {app : String} {work : Work E}
    (h : s.HasRoom app work) (hr : s.SameReservoirs s') (hs : s.SameSettings s') :
    s'.HasRoom app work where
  isNumber := h.isNumber
  isNumber_event := h.isNumber_event
  live kind ref hlive := by
    rw [hr.liveRef?] at hlive
    rw [hr.reservoir]
    exact h.live kind ref hlive
  fresh kind := by
    rw [hs.freshReservoir]
    exact h.fresh kind

theorem Service.HasRoom.takes [HasPriority E] {s : Service E} {app : String} {work : Work E}
    (h : s.HasRoom app work) (kind : Kind) :
    (s.getOrCreate kind app).2.Takes (s.getOrCreate kind app).1
      (HasPriority.priority work.event) := by
  refine .inr ⟨Store.mem_all_iff.2 ⟨kind, app, s.liveRef?_getOrCreate kind app⟩,
    h.isNumber_event, ?_⟩
  rw [Service.getOrCreate]
  split
  next ref hlive => exact h.live kind ref hlive
  next =>
    rw [Service.install_fst, Service.reservoir_install_self]
    exact h.fresh kind

namespace Run

variable {label : String → T} {calm : Prop} {r : Run E P S} {app : String}

/-! ### Recording -/

section Record

variable [HasPriority E]

theorem Sound.offerTo (h : r.Sound 0) {kind : Kind} {ref : Ref}
    (hb : r.service.Belongs kind app ref) (job : Job E P)
    (hlabel : label Kind.ordinary.service = label Kind.synthetic.service ∨ calm)
    (hcalm : calm → r.service.Takes ref (HasPriority.priority job.work.event)) :
    Kept label calm {job.parcel label kind app} r 0 (r.offerTo kind app job ref) 0 := by
  have hstart : Kept label calm 0 r 0 r 0 := .refl h
  have hoffer := hstart.offer hb hcalm job.work.event
  have hkept : calm → ∀ event, (r.service.offer ref (HasPriority.priority job.work.event)
      job.work.event).1 ≠ .rejected event := fun hc => (hcalm hc).offer_fst_ne_rejected _
  rw [Run.offerTo_eq]
  generalize r.service.offer ref (HasPriority.priority job.work.event) job.work.event = result
    at hoffer hkept ⊢
  obtain ⟨decision, s⟩ := result
  simp only [Multiset.zero_add] at hoffer hkept ⊢
  cases decision with
  | accepted =>
    cases kind with
    | ordinary => exact hoffer.finish job
    | synthetic => exact (hoffer.log _ _ _ _).finish job
  | rejected _ =>
    have hnot : ¬ calm := fun hc => hkept hc _ rfl
    cases kind with
    | ordinary => exact (hoffer.lose hnot (Multiset.zero_le _)).finish job
    | synthetic =>
      -- the event goes on as an ordinary one, which its label must not tell
      have hsame : job.parcel label .ordinary app = job.parcel label .synthetic app :=
        congrArg (·, app, job.work.event) (hlabel.resolve_right hnot)
      refine hoffer.push trivial rfl ?_
      rw [Sampling.Reservoir.accepted_rejected, Multiset.zero_add, ← hsame]
      rfl
  | closed _ => exact hoffer.push trivial rfl (Multiset.zero_add _)

theorem Sound.submit (h : r.Sound 0) {kind : Kind} {ref : Ref}
    (hb : r.service.Belongs kind app ref) (job : Job E P)
    (hlabel : label Kind.ordinary.service = label Kind.synthetic.service ∨ calm)
    (hcalm : calm → r.service.Takes ref (HasPriority.priority job.work.event)) :
    Kept label calm {job.parcel label kind app} r 0 (r.submit kind app job ref) 0 := by
  rw [Run.submit]
  split
  next steps later _ => exact (Kept.refl h).within steps hb rfl (Multiset.zero_add _)
  next => exact h.offerTo hb job hlabel hcalm

/-- An event that can be retained in the live reservoir is kept. -/
theorem Sound.compete (h : r.Sound 0) (kind : Kind) (job : Job E P)
    (hlabel : label Kind.ordinary.service = label Kind.synthetic.service ∨ calm)
    (hcalm : calm → r.service.HasRoom app job.work) :
    Kept label calm {job.parcel label kind app} r 0 (r.compete kind app job) 0 := by
  have htakes : calm → (r.service.getOrCreate kind app).2.Takes (r.service.getOrCreate kind app).1
      (HasPriority.priority job.work.event) := fun hc => (hcalm hc).takes kind
  have hstart : Kept label calm 0 r 0 r 0 := .refl h
  have hgot := hstart.getOrCreate kind app
  have hlive := r.service.liveRef?_getOrCreate kind app
  rw [Run.compete]
  generalize r.service.getOrCreate kind app = result at hgot hlive htakes ⊢
  obtain ⟨ref, s⟩ := result
  simp only at hgot hlive htakes ⊢
  have hb : s.Belongs kind app ref := hgot.sound.service.live hlive
  cases kind with
  | synthetic => exact hgot.andThen (hgot.sound.submit hb job hlabel htakes)
  | ordinary =>
    simp only
    split
    next hwould =>
      split
      next steps hbuild => exact hgot.within steps hb rfl (Multiset.zero_add _)
      next hbuild => exact hgot.andThen (hgot.sound.submit hb job hlabel htakes)
    next hwont =>
      -- a reservoir with room would have accepted the event
      have hnot : ¬ calm := fun hc =>
        hwont ((htakes hc).wouldAccept (hgot.sound.service.isOpen hlive) (hcalm hc).isNumber)
      have hcounted := hgot.countTry ref
      split
      · exact (hcounted.lose hnot (Multiset.zero_le _)).finish job
      · exact hcounted.push trivial rfl (Multiset.zero_add _)

theorem Sound.afterBuild (h : r.Sound 0) (job : Job E P) (namesVersion : Nat) (goal : Option Ref)
    (hfits : (Frame.built app job namesVersion goal).Fits r.service)
    (hlabel : label Kind.ordinary.service = label Kind.synthetic.service ∨ calm)
    (hcalm : calm → r.service.HasRoom app job.work)
    (hgoal : ∀ ref, goal = some ref → calm →
      r.service.Takes ref (HasPriority.priority job.work.event)) :
    Kept label calm ((Frame.built app job namesVersion goal).pending label) r 0
      (r.afterBuild app job namesVersion goal) 0 := by
  have hsame := r.service.sameReservoirs_internAt namesVersion job.work.name
  have hstart : Kept label calm 0 r 0 r 0 := .refl h
  have hshared := hstart.sameReservoirs hsame
  cases goal with
  | none =>
    exact hshared.andThen (hshared.sound.compete .synthetic { job with onBuild := none } hlabel
      fun hc => (hcalm hc).same hsame (r.service.sameSettings_internAt _ _))
  | some ref =>
    have hb : r.service.Belongs .ordinary app ref := hfits
    exact hshared.andThen (hshared.sound.submit (hb.grows (hsame.grows fun _ => False))
      { job with onBuild := none } hlabel fun hc => (hgoal ref rfl hc).sameReservoirs hsame)

theorem Sound.afterAsk (h : r.Sound 0) (job : Job E P)
    (hlabel : label Kind.ordinary.service = label Kind.synthetic.service ∨ calm)
    (hcalm : calm → r.service.HasRoom app job.work) :
    Kept label calm {job.parcel label job.work.kind app} r 0 (r.afterAsk app job) 0 := by
  unfold Run.afterAsk Work.kind
  split
  · exact (Kept.refl h).within _ trivial rfl (Multiset.zero_add _)
  · exact h.compete .ordinary job hlabel hcalm

omit [HasPriority E] in
/-- **A record call** of an application that is collected is given the event. -/
theorem Sound.record (h : r.Sound 0) (work : Work E) (onAsk onBuild : List (Step E P))
    (onPriority : List (List (Step E P)))
    (hcalm : calm → r.service.isActive ∧ (r.service.askEnabled app).1) :
    Kept label calm {(label work.kind.service, app, work.event)} r 0
      (r.record app work onAsk onBuild onPriority) 0 := by
  have hstart : Kept label calm 0 r 0 r 0 := .refl h
  have hasked := hstart.sameReservoirs (r.service.sameReservoirs_askEnabled app)
  rw [Run.record]
  generalize r.service.askEnabled app = result at hasked hcalm ⊢
  obtain ⟨enabled, s⟩ := result
  simp only at hasked hcalm ⊢
  split
  next hinactive =>
    have hnot : ¬ calm := fun hc => by
      rw [(hcalm hc).1] at hinactive
      exact Bool.false_ne_true hinactive
    exact (hstart.lose hnot (Multiset.zero_le _)).finish _
  next =>
    split
    next hdisabled =>
      have hnot : ¬ calm := fun hc => by
        rw [(hcalm hc).2] at hdisabled
        exact Bool.false_ne_true hdisabled
      exact ((hasked.retires hnot (s.retires_removeOrdinary app)).lose hnot
        (Multiset.zero_le _)).finish _
    next => exact hasked.within onAsk trivial rfl (Multiset.zero_add _)

end Record

theorem Sound.drawPriority (h : r.Sound 0) (app : String) :
    Kept label calm 0 r 0 (r.drawPriority app) 0 := by
  have hstart : Kept label calm 0 r 0 r 0 := .refl h
  have hgot := hstart.getOrCreate .ordinary app
  have hlive := r.service.liveRef?_getOrCreate .ordinary app
  exact (hgot.decide hlive r.random.unit.1).same rfl rfl rfl rfl


/-! ### Harvesting -/

section Harvest

variable {hand : Multiset Ref} {ref : Ref}

theorem Sound.enqueue (h : r.Sound (hand + {ref})) (hb : r.service.Belongs .synthetic app ref)
    (hcalm : calm → r.service.backlog.size < r.service.backlog.capacity) (app' : String) :
    Kept label calm 0 r (hand + {ref}) (r.enqueue app' ref) hand := by
  have hstart : Kept label calm 0 r (hand + {ref}) r (hand + {ref}) := .refl h
  unfold Run.enqueue Backlog.push
  split
  next backlog hpush =>
    split at hpush
    · nomatch hpush
    · obtain rfl := Except.ok.inj hpush
      refine hstart.requeued ?_ fun ref' hm => ?_
      · rw [← Multiset.coe_add, Multiset.add_assoc,
          Multiset.add_comm (([ref] : List Ref) : Multiset Ref)]
        rfl
      · rcases List.mem_append.1 hm with hm | hm
        · exact h.waiting ref' hm
        · obtain rfl := List.mem_singleton.1 hm
          exact ⟨app, hb⟩
  next error hpush =>
    have hnot : ¬ calm := fun hc => by
      rw [if_neg (Nat.not_le.2 (hcalm hc))] at hpush
      nomatch hpush
    exact ((hstart.forget fun hc => absurd hc hnot).log _ _ _ _).note (Note.isQuiet_counted _ _ _)

/-- **The first half of a harvest** moves the synthetic reservoir to the backlog. -/
theorem Sound.harvest (h : r.Sound 0)
    (hcalm : calm → ∀ ref, r.service.liveRef? .synthetic app = some ref →
      ((r.service.swapOut .synthetic app).2.reservoir ref).isEmpty = false →
      (r.service.swapOut .synthetic app).2.backlog.size <
        (r.service.swapOut .synthetic app).2.backlog.capacity) :
    Kept label calm 0 r 0 (r.harvest app) 0 := by
  have hstart : Kept label calm 0 r 0 (r.withAnswer .none) 0 := (Kept.refl h).withAnswer .none
  have hswap := hstart.swapOut .synthetic app
  have hfst := (r.withAnswer .none).service.swapOut_fst .synthetic app
  have hgrows := (r.withAnswer .none).service.grows_swapOut (fun _ => False) .synthetic app
  rw [Run.harvest]
  simp only
  split
  · exact hstart
  · refine Kept.push ?_ trivial rfl (Multiset.add_zero _)
    split
    next ref hlive =>
      rw [hfst] at hlive
      rw [hlive] at hswap
      split
      next hempty => exact hswap.forget fun _ => Sampling.Reservoir.isEmpty_iff.1 hempty
      next hheld =>
        exact hswap.andThen (hswap.sound.enqueue ((h.service.live hlive).grows hgrows)
          (fun hc => hcalm hc ref hlive (eq_false_of_ne_true hheld)) app)
    next hnone =>
      rw [hfst] at hnone
      rw [hnone] at hswap
      exact hswap

theorem Kept.endDrain {r' : Run E P S} {given : Multiset (T × String × E)}
    (h : Kept label calm given r hand r' 0) (app : String) :
    Kept label calm given r hand (r'.endDrain app) 0 :=
  (h.note (Note.isQuiet_gauged _ _ _)).push trivial rfl (Multiset.add_zero _)

/-- The oldest waiting batch goes from the backlog to the transport. -/
theorem Sound.drain (h : r.Sound 0) (app : String) (budget : Nat) :
    Kept label calm 0 r 0 (r.drain app budget) 0 := by
  unfold Run.drain Backlog.pop?
  cases budget with
  | zero => exact (Kept.refl h).endDrain app
  | succ budget =>
    cases hq : r.service.backlog.queue with
    | nil => exact (Kept.refl h).endDrain app
    | cons ref rest =>
      obtain ⟨owner, hb⟩ := h.waiting ref (by rw [hq]; exact List.mem_cons_self)
      have hstart : Kept label calm 0 r 0 r 0 := .refl h
      have hpop : Kept label calm 0 r 0
          (r.withService { r.service with backlog := { r.service.backlog with queue := rest } })
          (0 + {ref}) := by
        refine hstart.requeued ?_ fun ref' hm => h.waiting ref' ?_
        · rw [hq, ← Multiset.cons_coe, ← Multiset.singleton_add]
          abel
        · rw [hq]
          exact List.mem_cons_of_mem _ hm
      have hb' := hb.grows (r.service.grows_backlog (fun _ => False)
        { r.service.backlog with queue := rest })
      refine hpop.send hb' (fun _ => rfl) (fun _ => rfl) fun flight href hbatch => ?_
      refine ⟨by rw [hbatch, href], owner, ?_⟩
      rw [href]
      exact hb'

/-- A failed synthetic batch goes back in front; another one may be dropped for it. -/
theorem Sound.requeue (h : r.Sound (hand + {ref})) (hb : r.service.Belongs .synthetic app ref)
    (hcalm : calm → r.service.backlog.size < r.service.backlog.capacity) :
    Kept label calm 0 r (hand + {ref}) (r.requeue ref) hand := by
  have hstart : Kept label calm 0 r (hand + {ref}) r (hand + {ref}) := .refl h
  have hwaiting : ∀ ref' ∈ ref :: r.service.backlog.queue,
      ∃ app, r.service.Belongs .synthetic app ref' := by
    intro ref' hm
    rcases List.mem_cons.1 hm with rfl | hm
    · exact ⟨app, hb⟩
    · exact h.waiting ref' hm
  rw [Run.requeue]
  by_cases hfull : max r.service.backlog.capacity 1 < (ref :: r.service.backlog.queue).length
  · have hnot : ¬ calm := fun hc => by
      have hlt := hcalm hc
      rw [Backlog.size] at hlt
      rw [List.length_cons] at hfull
      omega
    -- one more than there is room for, so the youngest batch is dropped
    have hne : ref :: r.service.backlog.queue ≠ [] := List.cons_ne_nil _ _
    have hlast := List.getLast?_eq_some_getLast hne
    have hsplit := List.dropLast_append_getLast hne
    generalize (ref :: r.service.backlog.queue).getLast hne = last at hlast hsplit
    have hrequeue : r.service.backlog.requeue ref = (some last,
        { r.service.backlog with queue := (ref :: r.service.backlog.queue).dropLast }) := by
      rw [Backlog.requeue, if_pos hfull, hlast]
    have hmoved : Kept label calm 0 r (hand + {ref}) (r.withService { r.service with
        backlog := { r.service.backlog with
          queue := (ref :: r.service.backlog.queue).dropLast } }) (hand + {last}) := by
      refine hstart.requeued ?_ fun ref' hm => hwaiting ref' (List.mem_of_mem_dropLast hm)
      have hcoe : ((ref :: r.service.backlog.queue).dropLast : Multiset Ref) + {last} =
          ref ::ₘ (r.service.backlog.queue : Multiset Ref) := by
        rw [Multiset.cons_coe]
        exact congrArg Multiset.ofList hsplit
      rw [← Multiset.singleton_add] at hcoe
      calc _ = ((ref :: r.service.backlog.queue).dropLast : Multiset Ref) + {last} + hand := by abel
        _ = _ := by
          rw [hcoe]
          abel
    simp only [hrequeue]
    exact ((hmoved.forget fun hc => absurd hc hnot).log _ _ _ _).note (Note.isQuiet_counted _ _ _)
  · have hrequeue : r.service.backlog.requeue ref = (none,
        { r.service.backlog with queue := ref :: r.service.backlog.queue }) := by
      rw [Backlog.requeue, if_neg hfull]
    simp only [hrequeue]
    refine hstart.requeued ?_ hwaiting
    rw [← Multiset.cons_coe, ← Multiset.singleton_add]
    abel

theorem Kept.requeue {r' : Run E P S} {given : Multiset (T × String × E)} {hand' : Multiset Ref}
    (h : Kept label calm given r hand r' (hand' + {ref}))
    (hb : ∃ app, r'.service.Belongs .synthetic app ref)
    (hcalm : calm → r'.service.backlog.size < r'.service.backlog.capacity) :
    Kept label calm given r hand (r'.requeue ref) hand' := by
  obtain ⟨app, hb⟩ := hb
  exact h.followedBy (h.sound.requeue hb hcalm)

/-- **The outcome of a synthetic send**: delivered, back in the backlog, or dropped. -/
theorem Sound.settleSynthetic {flight : Flight E} (h : r.Sound (0 + {flight.ref})) (budget : Nat)
    (hfits : (Frame.settleSynthetic app budget flight : Frame E P).Fits r.service)
    (hcalm : calm → (∀ error, flight.outcome = some error → error.isTransient) ∧
      r.service.backlog.size < r.service.backlog.capacity) :
    Kept label calm 0 r (0 + {flight.ref}) (r.settleSynthetic app budget flight) 0 := by
  have hstart : Kept label calm 0 r (0 + {flight.ref}) r (0 + {flight.ref}) := .refl h
  obtain ⟨hbatch, owner, hb⟩ := hfits
  rw [Run.settleSynthetic]
  simp only
  cases hout : flight.outcome with
  | none =>
    exact ((hstart.deliver hb hbatch).note (Note.isQuiet_counted _ _ _)).push trivial rfl
      (Multiset.add_zero _)
  | some error =>
    have hnoted := hstart.note (Note.isQuiet_settled .synthetic flight.batch error)
    simp only
    split
    next htransient =>
      refine Kept.endDrain (Kept.requeue
        ((hnoted.logUnsent _ _ _).note (Note.isQuiet_counted _ _ _)) ?_ fun hc => ?_) app
      · simpa only [note_service, logUnsent_service] using ⟨owner, hb⟩
      · simpa only [note_service, logUnsent_service] using (hcalm hc).2
    next hlasting =>
      have hnot : ¬ calm := fun hc => hlasting ((hcalm hc).1 error hout)
      exact Kept.endDrain (Kept.forget
        ((hnoted.logUnsent _ _ _).note (Note.isQuiet_counted _ _ _)) fun hc => absurd hc hnot) app

/-- **The second half of a harvest** sends what the live ordinary reservoir held. -/
theorem Sound.harvestOrdinary (h : r.Sound 0) (hcalm : calm → (r.service.askEnabled app).1) :
    Kept label calm 0 r 0 (r.harvestOrdinary app) 0 := by
  have hstart : Kept label calm 0 r 0 r 0 := .refl h
  have hasked := hstart.sameReservoirs (r.service.sameReservoirs_askEnabled app)
  rw [Run.harvestOrdinary]
  generalize r.service.askEnabled app = result at hasked hcalm ⊢
  obtain ⟨enabled, s⟩ := result
  simp only at hasked hcalm ⊢
  split
  next hdisabled =>
    have hnot : ¬ calm := fun hc => by
      rw [hcalm hc] at hdisabled
      exact Bool.false_ne_true hdisabled
    exact hasked.retires hnot (s.retires_removeOrdinary app)
  next =>
    have hswap := hasked.swapOut .ordinary app
    have hfst := s.swapOut_fst .ordinary app
    have hgrows := s.grows_swapOut (fun _ => False) .ordinary app
    change Kept label calm 0 r 0 _ (0 + (s.liveRef? .ordinary app).toList) at hswap
    generalize hresult : s.swapOut .ordinary app = result at hfst hgrows ⊢
    change Kept label calm 0 r 0 (r.withService (s.swapOut .ordinary app).2) _ at hswap
    rw [hresult] at hswap
    obtain ⟨swapped, s'⟩ := result
    simp only at hswap hfst hgrows ⊢
    subst hfst
    split
    next hnone =>
      rw [hnone] at hswap
      exact hswap
    next ref hlive =>
      rw [hlive] at hswap
      have hb : s'.Belongs .ordinary app ref := (hasked.sound.service.live hlive).grows hgrows
      split
      next hempty => exact hswap.forget fun _ => Sampling.Reservoir.isEmpty_iff.1 hempty
      next =>
        have hnoted := hswap.note
          (Note.isQuiet_gauged "events.harvest.limit" (s'.reservoir ref).capacity [appTag app])
        have hb' : ((r.withService s').note (.gauged "events.harvest.limit"
            (s'.reservoir ref).capacity [appTag app])).service.Belongs .ordinary app ref := by
          rw [note_service]
          exact hb
        refine Kept.send hnoted hb' (fun _ => rfl) (fun _ => rfl)
          fun flight href hbatch => ⟨?_, ?_⟩
        · rw [hbatch, href]
        · rw [href]
          exact hb'

/-- **The outcome of an ordinary send**: delivered, merged into the live reservoir, or
dropped. -/
theorem Sound.settleOrdinary {flight : Flight E} (h : r.Sound (0 + {flight.ref}))
    (hfits : (Frame.settleOrdinary app flight : Frame E P).Fits r.service)
    (hcalm : calm → ∀ error, flight.outcome = some error →
      isRetried error r.service.settings.harvest.unexpectedErrors ∧
        ((r.service.getOrCreate .ordinary app).2.reservoir
            (r.service.getOrCreate .ordinary app).1).size +
          ((r.service.getOrCreate .ordinary app).2.reservoir flight.ref).size ≤
        ((r.service.getOrCreate .ordinary app).2.reservoir
          (r.service.getOrCreate .ordinary app).1).capacity) :
    Kept label calm 0 r (0 + {flight.ref}) (r.settleOrdinary app flight) 0 := by
  have hstart : Kept label calm 0 r (0 + {flight.ref}) r (0 + {flight.ref}) := .refl h
  obtain ⟨hbatch, hb⟩ := hfits
  rw [Run.settleOrdinary]
  simp only
  cases hout : flight.outcome with
  | none =>
    exact ((((hstart.deliver hb hbatch).note (Note.isQuiet_sample _)).note
      (Note.isQuiet_counted _ _ _)).note (Note.isQuiet_counted _ _ _)).log _ _ _ _
  | some error =>
    have hnoted := hstart.note (Note.isQuiet_settled .ordinary flight.batch error)
    simp only
    split
    next hretried =>
      refine Kept.note (Kept.mergeInto .ordinary app
        (Kept.getOrCreate (hnoted.logUnsent _ _ _) .ordinary app) ?_ ?_ fun hc => ?_)
        (Note.isQuiet_counted _ _ _)
      · simp only [note_service, logUnsent_service]
        exact hb.grows (r.service.grows_getOrCreate (fun _ => False) .ordinary app)
      · simp only [note_service, logUnsent_service]
        exact r.service.liveRef?_getOrCreate .ordinary app
      · simp only [note_service, logUnsent_service]
        exact (hcalm hc error hout).2
    next hdropped =>
      have hnot : ¬ calm := fun hc => hdropped (by
        rw [note_service]
        exact (hcalm hc error hout).1)
      exact ((hnoted.logUnsent _ _ _).clear hnot).note (Note.isQuiet_counted _ _ _)

end Harvest

/-! ### Steps -/

section Step

variable [HasPriority E]

/-- The events of record calls. -/
def begun (label : String → T) (calls : List (String × Work E)) : Multiset (T × String × E) :=
  (calls.map fun c => (label c.2.kind.service, c.1, c.2.event) : List (T × String × E))

omit [HasPriority E] in
theorem begun_append (calls calls' : List (String × Work E)) :
    begun label (calls ++ calls') = begun label calls + begun label calls' := by
  rw [begun, List.map_append, ← Multiset.coe_add]
  rfl

omit [HasPriority E] in
theorem card_begun (calls : List (String × Work E)) : (begun label calls).card = calls.length := by
  rw [begun, Multiset.coe_card, List.length_map]

/-- **Each step** is given the event of the record call that it starts. -/
theorem Sound.start {r : Run E Empty Unit} (h : r.Sound 0) (s : Step E Empty) :
    Kept label False (begun label (r.callOf? s).toList) r 0 (r.start (.idle E) s) 0 := by
  have hstart : Kept label False 0 r 0 r 0 := .refl h
  cases s with
  | recordWith app work onAsk onBuild onPriority =>
    exact h.record work onAsk onBuild onPriority False.elim
  | recordDrawn app make =>
    have hdrawn : Kept label False 0 r 0
        { r.drawPriority app with numbered := (r.drawPriority app).numbered + 1 } 0 :=
      (h.drawPriority app).same rfl rfl rfl rfl
    exact hdrawn.andThen (hdrawn.sound.record _ [] [] [] False.elim)
  | drawPriority app => exact h.drawPriority app
  | harvest app => exact h.harvest False.elim
  | change c =>
    exact ((hstart.retires id (r.service.retires_change c)).noteAll
      (r.service.isQuiet_change c)).withAnswer _
  | setCapacity n =>
    exact ((hstart.sameReservoirs (r.service.sameReservoirs_setCapacity n)).noteAll
      (r.service.isQuiet_setCapacity n)).withAnswer _
  | getOrCreate app => exact (hstart.getOrCreate .ordinary app).withAnswer _
  | clear => exact (hstart.retires id r.service.retires_clearOrdinary).withAnswer _
  | shutDown =>
    exact ((hstart.retires id r.service.retires_shutDown).noteAll
      r.service.isQuiet_shutDown).withAnswer _
  | askEnabled app =>
    exact (hstart.sameReservoirs (r.service.sameReservoirs_askEnabled app)).withAnswer _
  | background steps =>
    have hhidden : Kept label False 0 r 0 { r with inBackground := true } 0 :=
      hstart.same rfl rfl rfl rfl
    exact hhidden.within steps trivial rfl (Multiset.add_zero _)
  | probe p => nomatch p

theorem Sound.resume {r : Run E Empty Unit} {f : Frame E Empty} (h : r.Sound (0 + sending f))
    (hfits : f.Fits r.service)
    (hlabel : label Kind.ordinary.service = label Kind.synthetic.service) :
    Kept label False (f.pending label + begun label (r.callFrom? f).toList) r (0 + sending f)
      (r.resume (.idle E) f) 0 := by
  cases f with
  | steps steps =>
    have hstart : Kept label False 0 r 0 r 0 := .refl h
    cases steps with
    | nil => exact hstart
    | cons s rest =>
      have hpush : Kept label False 0 r 0 (r.push (.steps rest)) 0 :=
        hstart.push trivial rfl (Multiset.add_zero _)
      have hnext := hpush.andThen (hpush.sound.start s)
      rw [push, callOf?_stack] at hnext
      rw [← Multiset.zero_add (begun label _)] at hnext
      exact hnext
  | asked app job => exact h.afterAsk job (.inl hlabel) False.elim
  | compete kind app job => exact h.compete kind job (.inl hlabel) False.elim
  | built app job namesVersion goal =>
    rw [show begun label (r.callFrom? (.built app job namesVersion goal)).toList = 0 from rfl,
      Multiset.add_zero]
    exact h.afterBuild job namesVersion goal hfits (.inl hlabel) False.elim
      fun _ _ => False.elim
  | offer kind app job ref => exact h.offerTo hfits job (.inl hlabel) False.elim
  | drain app budget => exact h.drain app budget
  | settleSynthetic app budget flight => exact h.settleSynthetic budget hfits False.elim
  | ordinary app => exact h.harvestOrdinary False.elim
  | settleOrdinary app flight => exact h.settleOrdinary hfits False.elim
  | foreground wasBackground => exact (Kept.refl h).same rfl rfl rfl rfl

/-- **A step adds nothing but the event of the record call that it starts.** -/
theorem Sound.step {r r' : Run E Empty Unit} (h : r.Sound 0)
    (hlabel : label Kind.ordinary.service = label Kind.synthetic.service)
    (hstep : r.step (.idle E) = some r') :
    Kept label False (begun label r.call?.toList) r 0 r' 0 := by
  obtain ⟨f, rest, hstack, rfl⟩ := step_eq_some_iff.1 hstep
  have hfits : f.Fits r.service := h.fits f (by rw [hstack]; exact List.mem_cons_self)
  rw [call?_of_stack hstack]
  exact ((h.pop hstack).resume hfits hlabel).popped hstack

/-- **A run adds nothing but the events of the record calls in it.** -/
theorem Sound.advance {r : Run E Empty Unit} (h : r.Sound 0)
    (hlabel : label Kind.ordinary.service = label Kind.synthetic.service) (n : Nat) :
    Kept label False (begun label (r.recorded (.idle E) n)) r 0 (r.advance (.idle E) n) 0 := by
  induction n generalizing r with
  | zero => exact .refl h
  | succ n ih =>
    cases hstep : r.step (.idle E) with
    | none =>
      rw [recorded_succ_of_none hstep, advance_succ_of_none hstep]
      exact .refl h
    | some r' =>
      have hkept := h.step hlabel hstep
      rw [recorded_succ_of_some hstep, advance_succ_of_some hstep, begun_append]
      exact hkept.trans (ih hkept.sound)

omit [HasPriority E] in
theorem sound_fresh (settings : Config.Settings) (transport : Transport E Empty)
    (steps : List (Step E Empty)) (random : Random.Source) :
    (fresh settings transport steps random).Sound 0 := by
  have hlive : ∀ {kind app ref},
      (fresh settings transport steps random).service.liveRef? kind app = some ref → False := by
    intro kind app ref hr
    cases kind <;> exact nomatch hr
  have haside : (fresh settings transport steps random).aside + 0 = 0 := rfl
  refine ⟨?_, fun f hf => ?_, fun ref hm => absurd hm List.not_mem_nil⟩
  · rw [haside]
    exact ⟨fun hr => (hlive hr).elim, fun hr => (hlive hr).elim, Multiset.nodup_zero,
      fun hm => absurd hm (Multiset.notMem_zero _), fun hm => absurd hm (Multiset.notMem_zero _)⟩
  · obtain rfl := List.mem_singleton.1 hf
    trivial

omit [HasPriority E] in
theorem total_fresh (label : String → T) (settings : Config.Settings)
    (transport : Transport E Empty) (steps : List (Step E Empty)) (random : Random.Source) :
    (fresh settings transport steps random).total label 0 = 0 := rfl

end Step

/-! ### Delivery -/

/-- **The places where events are**, each with the events in it: the live reservoirs, those that
wait in the backlog, those that are being sent, and the batches delivered. -/
def places (r : Run E P S) : Multiset (Multiset E) :=
  (r.service.live.all + r.aside).map (fun ref => (r.service.reservoir ref).retained) +
    (r.delivered.map fun b => (b.2.events : Multiset E) : List (Multiset E))

/-- The events among some parcels. -/
def eventsOf (parcels : Multiset (T × String × E)) : Multiset E := parcels.map fun p => p.2.2

@[simp] theorem eventsOf_add (parcels parcels' : Multiset (T × String × E)) :
    eventsOf (parcels + parcels') = eventsOf parcels + eventsOf parcels' :=
  Multiset.map_add ..

theorem eventsOf_stock (s : Service E) (refs : Multiset Ref) :
    eventsOf (s.stock label refs) = (refs.map fun ref => (s.reservoir ref).retained).join := by
  rw [eventsOf, Service.stock, Multiset.map_bind, Multiset.bind]
  congr 2
  funext ref
  rw [Sampling.Reservoir.parcels, Multiset.map_map]
  exact Multiset.map_id _

theorem eventsOf_delivered (delivered : List (Kind × Batch E)) :
    eventsOf (delivered.map fun b => b.2.parcels label b.1).sum =
      (delivered.map fun b => (b.2.events : Multiset E)).sum := by
  induction delivered with
  | nil => rfl
  | cons b rest ih =>
    rw [List.map_cons, List.sum_cons, eventsOf_add, ih, List.map_cons, List.sum_cons]
    congr 1
    rw [eventsOf, Batch.parcels, Multiset.map_map]
    exact Multiset.map_id _

variable (label) in
theorem join_places_le (r : Run E P S) : r.places.join ≤ eventsOf (r.total label 0) := by
  have htotal : eventsOf (r.total label 0) =
      r.places.join + eventsOf (r.stack.map (Frame.pending label)).sum := by
    rw [Run.total, eventsOf_add, eventsOf_add, eventsOf_delivered, Service.holding,
      eventsOf_stock, Multiset.add_zero, places, Multiset.join_add, Multiset.join, Multiset.sum_coe]
    abel
  rw [htotal]
  exact Multiset.le_add_right _ _

/-- The events delivered stand in places. -/
theorem delivered_le_places (r : Run E P S) :
    ((r.delivered.flatMap fun b => b.2.events : List E) : Multiset E) ≤ r.places.join := by
  have hcoe : ∀ l : List (Kind × Batch E), ((l.flatMap fun b => b.2.events : List E) : Multiset E) =
      (l.map fun b => (b.2.events : Multiset E)).sum := by
    intro l
    induction l with
    | nil => rfl
    | cons b rest ih =>
      rw [List.flatMap_cons, ← Multiset.coe_add, ih, List.map_cons, List.sum_cons]
  rw [hcoe, places, Multiset.join_add, ← Multiset.sum_coe]
  exact Multiset.le_add_left _ _

/-- **At most once.** If no event is recorded twice, each event is in at most one place at every
point of a run; in particular it is in at most one delivered batch. And whatever is handed to
the transport goes under the application that it was recorded for. -/
theorem nodup_places [HasPriority E] (settings : Config.Settings) (transport : Transport E Empty)
    (steps : List (Step E Empty)) (random : Random.Source) (n : Nat)
    (hdistinct : (((fresh settings transport steps random).recorded (.idle E) n).map
      fun c => c.2.event).Nodup) :
    let r := (fresh settings transport steps random).advance (.idle E) n
    r.places.join.Nodup ∧ (r.delivered.flatMap fun b => b.2.events).Nodup ∧
      ∀ b ∈ r.attempted, ∀ event ∈ b.2.events,
        ∃ c ∈ (fresh settings transport steps random).recorded (.idle E) n,
          c.1 = b.2.app ∧ c.2.event = event := by
  intro r
  have hkept : Kept (fun _ => ()) False _ _ 0 r 0 :=
    (sound_fresh settings transport steps random).advance rfl n
  have htotal := hkept.total_le
  rw [total_fresh, Multiset.zero_add] at htotal
  -- what is in places was recorded, and that has no duplicates
  have hnodup : r.places.join.Nodup := by
    refine Multiset.nodup_of_le (join_places_le (fun _ => ()) r) ?_
    refine Multiset.nodup_of_le (Multiset.map_le_map htotal) ?_
    rw [begun, Multiset.map_coe, List.map_map]
    exact Multiset.coe_nodup.2 hdistinct
  refine ⟨hnodup, Multiset.coe_nodup.1 (Multiset.nodup_of_le r.delivered_le_places hnodup), ?_⟩
  intro b hb event hevent
  rcases hkept.attempted b hb with hnone | hle
  · exact absurd hnone List.not_mem_nil
  · rw [total_fresh, Multiset.zero_add] at hle
    -- the application of a batch is part of its parcels, so it is the one recorded for
    have hmem : ((), b.2.app, event) ∈ b.2.parcels (fun _ => ()) b.1 :=
      Multiset.mem_map.2 ⟨event, hevent, rfl⟩
    have hbegun := Multiset.mem_of_le hle hmem
    rw [begun, Multiset.mem_coe, List.mem_map] at hbegun
    obtain ⟨c, hc, heq⟩ := hbegun
    exact ⟨c, hc, congrArg (·.2.1) heq, congrArg (·.2.2) heq⟩

open Simulation (Event) in
/-- A transaction of regular traffic. -/
def transaction (name : String) (priority : Float) : Work Event where
  event := ⟨name, 1, priority, false⟩
  name := name
  priority := priority
  isSynthetic := false

open Simulation (Event) in
/-- A run of two harvests. The first one fails in passing while another event is recorded. -/
def retriedRun : Run Event Empty Unit :=
  fresh {} { planned := [⟨some (.transient "down"), [.record "a" (transaction "c" 0.25) [] []]⟩] }
    [.record "a" (transaction "a" 0.5) [] [], .record "a" (transaction "b" 0.75) [] [],
      .harvest "a", .harvest "a"] (.ofSeed 0)

theorem nodup_places_retriedRun : (retriedRun.advance (.idle _) 40).places.join.Nodup :=
  (nodup_places _ _ _ _ 40 (.of_map (fun event => event.name) (by decide +kernel))).1

end Run

end Telemetry.Events
