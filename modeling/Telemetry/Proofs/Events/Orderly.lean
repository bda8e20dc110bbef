import Telemetry.Proofs.Events.Revival

/-!
# Runs whose rules change in between only

In a run whose rules change at the top only – neither inside a send nor inside a callback does
an application get disabled, nor the service shut down – every check that a record or a harvest
relies on still holds when it goes on. So nothing is revived, and a barred application never has
a live ordinary reservoir (`Run.IsOrderly.isLive_advance`). With the steps that revive one, this
says when a barred application has a live reservoir (`Run.isLive_iff_revived`).

What is relied on is `Frame.Relies`: frames of a record, or of a batch that is being sent, that
their application is not barred, and the other frames of a harvest that the service has not been
shut down.
-/

namespace Telemetry.Events

open Sampling (HasPriority)

variable {E P S : Type}

/-! ### Steps that leave the rules alone -/

/-- **A step that leaves the rules alone**, and so do the steps inside it. -/
inductive Step.IsDocile : Step E P → Prop
  | record {app : String} {work : Work E} {onAsk onBuild : List (Step E P)}
      {onPriority : List (List (Step E P))} (hask : ∀ s ∈ onAsk, Step.IsDocile s)
      (hbuild : ∀ s ∈ onBuild, Step.IsDocile s)
      (hturns : ∀ steps ∈ onPriority, ∀ s ∈ steps, Step.IsDocile s) :
      Step.IsDocile (.recordWith app work onAsk onBuild onPriority)
  | harvest (app : String) : Step.IsDocile (.harvest app)
  | setCapacity (n : Nat) : Step.IsDocile (.setCapacity n)

/-- A step at the top: it leaves the rules alone, or all it does is to change them. -/
def Step.IsOrderly (s : Step E P) : Prop := s.IsDocile ∨ (∃ c, s = .change c) ∨ s = .shutDown

/-- A transport inside whose sends the rules are left alone. -/
def Transport.IsDocile (t : Transport E P) : Prop :=
  ∀ reply ∈ t.planned, ∀ s ∈ reply.during, s.IsDocile

theorem Transport.IsDocile.send {t : Transport E P} (h : t.IsDocile) (batch : Batch E) :
    (∀ s ∈ (t.send batch).1.during, s.IsDocile) ∧ (t.send batch).2.IsDocile :=
  Transport.forall_send h batch

/-- What the record of an event has ahead of it leaves the rules alone. -/
structure Job.IsDocile (job : Job E P) : Prop where
  onBuild : ∀ steps, job.onBuild = some steps → ∀ s ∈ steps, s.IsDocile
  onPriority : ∀ steps ∈ job.onPriority, ∀ s ∈ steps, s.IsDocile

theorem Job.IsDocile.built {job : Job E P} (h : job.IsDocile) :
    Job.IsDocile { job with onBuild := none } :=
  ⟨fun _ hnone => absurd hnone.symm (Option.some_ne_none _), h.onPriority⟩

/-! ### What frames rely on -/

theorem Service.isShutDown_of_isActive {s : Service E} (h : s.isActive) : s.isShutDown = false := by
  rw [Service.isActive, Bool.and_eq_true_iff, Bool.not_eq_true'] at h
  exact h.2

/-- **What a frame relies on**, while nothing above it changes the rules. -/
def Frame.Relies (s : Service E) : Frame E P → Prop
  | .steps rest => ∀ step ∈ rest, step.IsDocile
  | .asked app job => job.IsDocile ∧ s.isBarred app = false
  | .compete _ app job => job.IsDocile ∧ s.isBarred app = false
  | .built app job _ _ => job.IsDocile ∧ s.isBarred app = false
  | .offer _ app job _ => job.IsDocile ∧ s.isBarred app = false
  | .drain _ _ => s.isShutDown = false
  | .settleSynthetic _ _ _ => s.isShutDown = false
  | .ordinary _ => s.isShutDown = false
  | .settleOrdinary app _ => s.isBarred app = false
  | .foreground _ => True

theorem Frame.Relies.same {s s' : Service E} {f : Frame E P} (h : f.Relies s)
    (hrules : s.SameRules s') : f.Relies s' := by
  cases f with
  | steps rest => exact h
  | asked app job | compete kind app job | built app job namesVersion goal
  | offer kind app job ref => exact ⟨h.1, (hrules.isBarred app).trans h.2⟩
  | drain app budget | settleSynthetic app budget flight | ordinary app =>
    exact hrules.isShutDown.trans h
  | settleOrdinary app flight => exact (hrules.isBarred app).trans h
  | foreground wasBackground => trivial

/-- A step at the top revives no application. -/
theorem Step.IsOrderly.fate?_ne {step : Step E P} (h : step.IsOrderly) (s : Service E)
    (app : String) : step.fate? s app ≠ some true := by
  have hdrop : ∀ p : Prop, [Decidable p] → (if p then some false else none) ≠ some true := by
    intro p _
    split <;> decide
  rcases h with hdocile | ⟨c, rfl⟩ | rfl
  · cases hdocile with
    | record hask hbuild hturns => exact hdrop _
    | harvest app' => exact (Option.some_ne_none _).symm
    | setCapacity n => exact (Option.some_ne_none _).symm
  · exact hdrop _
  · intro hcon
    exact Bool.false_ne_true (Option.some.inj hcon)

/-- A frame revives no barred application if what it relies on holds. -/
theorem Frame.Relies.fate?_ne {s : Service E} {f : Frame E P} (h : f.Relies s) {app : String}
    (hbarred : s.isBarred app) : f.fate? s app ≠ some true := by
  -- a reservoir is only ever made for an application that is not barred
  have hmakes : ∀ (app' : String) (p : Prop) [Decidable p], s.isBarred app' = false →
      (p → app' = app) → (if p then some true else none) ≠ some true := by
    intro app' p _ hfree hp
    rw [if_neg]
    · exact (Option.some_ne_none _).symm
    · intro hcon
      rw [hp hcon, hbarred] at hfree
      exact Bool.false_ne_true hfree.symm
  cases f with
  | steps rest =>
    cases rest with
    | nil => exact (Option.some_ne_none _).symm
    | cons step rest => exact Step.IsOrderly.fate?_ne (.inl (h step List.mem_cons_self)) s app
  | asked app' job => exact hmakes app' _ h.2 fun hcon => hcon.1
  | compete kind app' job => exact hmakes app' _ h.2 fun hcon => hcon.2
  | settleOrdinary app' flight => exact hmakes app' _ h fun hcon => hcon.1
  | ordinary app' =>
    change (if app' = app then some (s.isCollected app) else none) ≠ some true
    split
    · intro hcon
      have hfree := Service.isBarred_eq_false.2 ⟨h, Option.some.inj hcon⟩
      rw [hbarred] at hfree
      exact Bool.false_ne_true hfree.symm
    · exact (Option.some_ne_none _).symm
  | _ => exact (Option.some_ne_none _).symm

/-- **The shape of the stack**: frames that rely on the rules, above steps at the top. -/
inductive IsStacked (s : Service E) : List (Frame E P) → Prop
  | nil : IsStacked s []
  | top {steps : List (Step E P)} (h : ∀ step ∈ steps, step.IsOrderly) :
      IsStacked s [.steps steps]
  | cons {f : Frame E P} {rest : List (Frame E P)} (hf : f.Relies s) (hrest : IsStacked s rest) :
      IsStacked s (f :: rest)

theorem IsStacked.same {s s' : Service E} {stack : List (Frame E P)} (h : IsStacked s stack)
    (hrules : s.SameRules s') : IsStacked s' stack := by
  induction h with
  | nil => exact .nil
  | top h => exact .top h
  | cons hf _ ih => exact .cons (hf.same hrules) ih

namespace Run

/-- **The invariant of an orderly run.** -/
structure IsOrderly (r : Run E P S) : Prop where
  transport : r.transport.IsDocile
  stack : IsStacked r.service r.stack

section Moves

variable {r : Run E P S} {app : String}

theorem IsOrderly.same (h : r.IsOrderly) {r' : Run E P S} (hrules : r.service.SameRules r'.service)
    (htransport : r'.transport = r.transport) (hstack : r'.stack = r.stack) : r'.IsOrderly := by
  refine ⟨?_, ?_⟩
  · rw [htransport]
    exact h.transport
  · rw [hstack]
    exact h.stack.same hrules

theorem IsOrderly.note (h : r.IsOrderly) (n : Note E) : (r.note n).IsOrderly := by
  refine h.same ?_ (note_transport r n) (note_stack r n)
  rw [note_service]
  exact .refl _

theorem IsOrderly.withService (h : r.IsOrderly) {s : Service E} (hrules : r.service.SameRules s) :
    (r.withService s).IsOrderly :=
  h.same hrules rfl rfl

theorem IsOrderly.push (h : r.IsOrderly) {f : Frame E P} (hf : f.Relies r.service) :
    (r.push f).IsOrderly :=
  ⟨h.transport, .cons hf h.stack⟩

theorem IsOrderly.within (h : r.IsOrderly) {steps : List (Step E P)} {f : Frame E P}
    (hsteps : ∀ s ∈ steps, s.IsDocile) (hf : f.Relies r.service) : (r.within steps f).IsOrderly :=
  (h.push hf).push hsteps

end Moves

/-! ### Recording -/

section Record

variable [HasPriority E] {r : Run E P S} {app : String} {job : Job E P}

theorem IsOrderly.offerTo (h : r.IsOrderly) (kind : Kind) (hjob : job.IsDocile)
    (hfree : r.service.isBarred app = false) (ref : Ref) :
    (r.offerTo kind app job ref).IsOrderly := by
  have hoffered : (r.withService (r.service.offer ref (HasPriority.priority job.work.event)
      job.work.event).2).IsOrderly :=
    h.withService (r.service.leaves_modify ref _ app).rules
  have hfree' : (r.service.offer ref (HasPriority.priority job.work.event)
      job.work.event).2.isBarred app = false :=
    ((r.service.leaves_modify ref _ app).rules.isBarred app).trans hfree
  rw [Run.offerTo_eq]
  generalize r.service.offer ref (HasPriority.priority job.work.event) job.work.event = result
    at hoffered hfree' ⊢
  obtain ⟨decision, s⟩ := result
  cases decision <;> cases kind
  case accepted.synthetic =>
    have hlogged : ((r.withService s).log .trace serviceSource "added synthetic transaction event"
        [("app", .text app)]).IsOrderly := hoffered.note _
    exact hlogged.same (.refl _) rfl rfl
  case accepted.ordinary | rejected.ordinary => exact hoffered.same (.refl _) rfl rfl
  all_goals exact hoffered.push ⟨hjob, hfree'⟩

theorem IsOrderly.submit (h : r.IsOrderly) (kind : Kind) (hjob : job.IsDocile)
    (hfree : r.service.isBarred app = false) (ref : Ref) :
    (r.submit kind app job ref).IsOrderly := by
  rw [Run.submit]
  split
  next steps later hturns =>
    have hlater : Job.IsDocile { job with onPriority := later } := by
      refine ⟨hjob.onBuild, fun steps' hm => ?_⟩
      exact hjob.onPriority steps' (by rw [hturns]; exact List.mem_cons_of_mem _ hm)
    have hsteps := hjob.onPriority steps (by rw [hturns]; exact List.mem_cons_self)
    exact h.within hsteps ⟨hlater, hfree⟩
  next => exact h.offerTo kind hjob hfree ref

theorem IsOrderly.compete (h : r.IsOrderly) (kind : Kind) (hjob : job.IsDocile)
    (hfree : r.service.isBarred app = false) : (r.compete kind app job).IsOrderly := by
  have hrules := (r.service.sameSettings_getOrCreate kind app).sameRules
  have hgot := h.withService hrules
  have hfree' := (hrules.isBarred app).trans hfree
  rw [Run.compete]
  generalize r.service.getOrCreate kind app = result at hgot hfree' ⊢
  obtain ⟨ref, s⟩ := result
  have hcounted := hgot.withService (s.leaves_modify ref (fun r => r.countTry.2) app).rules
  have hfree'' :=
    ((s.leaves_modify ref (fun r => r.countTry.2) app).rules.isBarred app).trans hfree'
  cases kind with
  | synthetic => exact hgot.submit .synthetic hjob hfree' ref
  | ordinary =>
    simp only
    split
    · split
      next steps hbuild => exact hgot.within (hjob.onBuild steps hbuild) ⟨hjob, hfree'⟩
      next => exact hgot.submit .ordinary hjob hfree' ref
    · split
      · exact hcounted.same (.refl _) rfl rfl
      · exact hcounted.push ⟨hjob, hfree''⟩

theorem IsOrderly.afterBuild (h : r.IsOrderly) (hjob : job.IsDocile)
    (hfree : r.service.isBarred app = false) (namesVersion : Nat) (goal : Option Ref) :
    (r.afterBuild app job namesVersion goal).IsOrderly := by
  have hrules := (r.service.sameSettings_internAt namesVersion job.work.name).sameRules
  have hshared := h.withService hrules
  have hfree' := (hrules.isBarred app).trans hfree
  cases goal with
  | some ref => exact hshared.submit .ordinary hjob.built hfree' ref
  | none => exact hshared.compete .synthetic hjob.built hfree'

theorem IsOrderly.afterAsk (h : r.IsOrderly) (hjob : job.IsDocile)
    (hfree : r.service.isBarred app = false) : (r.afterAsk app job).IsOrderly := by
  rw [Run.afterAsk]
  split
  · refine h.within (fun s hs => ?_) ⟨hjob, hfree⟩
    cases hbuild : job.onBuild with
    | none =>
      rw [hbuild] at hs
      exact absurd hs List.not_mem_nil
    | some steps =>
      rw [hbuild] at hs
      exact hjob.onBuild steps hbuild s hs
  · exact h.compete .ordinary hjob hfree

omit [HasPriority E] in
/-- A record that goes on is one of an application that is not barred. -/
theorem IsOrderly.record (h : r.IsOrderly) (hcandid : r.service.IsCandid) {work : Work E}
    {onAsk onBuild : List (Step E P)} {onPriority : List (List (Step E P))}
    (hdocile : (Step.recordWith app work onAsk onBuild onPriority).IsDocile) :
    (r.record app work onAsk onBuild onPriority).IsOrderly := by
  obtain ⟨hask, hbuild, hturns⟩ := hdocile
  have hrules := r.service.sameRules_askEnabled app
  have hasked := h.withService hrules
  have hdecided := hcandid.fst_askEnabled app
  have hbarred := hrules.isBarred app
  rw [Run.record]
  cases hactive : r.service.isActive with
  | false => exact h.same (.refl _) rfl rfl
  | true =>
    generalize r.service.askEnabled app = result at hasked hdecided hbarred ⊢
    obtain ⟨enabled, s⟩ := result
    obtain rfl : enabled = _ := hdecided
    simp only [Bool.not_true, Bool.false_eq_true, if_false]
    cases hcollected : r.service.isCollected app with
    | false =>
      have hremoved := hasked.withService (s.sameSettings_removeOrdinary app).sameRules
      exact hremoved.same (.refl _) rfl rfl
    | true =>
      -- the record goes on, so the application is collected by an active service
      have hfree := hbarred.trans
        (Service.isBarred_eq_false.2 ⟨Service.isShutDown_of_isActive hactive, hcollected⟩)
      refine hasked.within hask ⟨⟨fun steps hsteps => ?_, hturns⟩, hfree⟩
      obtain rfl := Option.some.inj hsteps
      exact hbuild

end Record

/-! ### Harvesting -/

section Harvest

variable {r : Run E P S} {app : String}

theorem IsOrderly.send (h : r.IsOrderly) (kind : Kind) (ref : Ref) {settle : Flight E → Frame E P}
    (hsettle : ∀ flight, (settle flight).Relies r.service) :
    (r.send kind ref settle).IsOrderly := by
  obtain ⟨hduring, hnext⟩ := h.transport.send _
  have hmoved : IsOrderly { r with transport := r.transportAfter ref } := ⟨hnext, h.stack⟩
  rw [send_eq]
  refine (hmoved.note _).within hduring ?_
  rw [note_service]
  exact hsettle _

theorem IsOrderly.enqueue (h : r.IsOrderly) (ref : Ref) : (r.enqueue app ref).IsOrderly := by
  rw [Run.enqueue]
  split
  · exact h.withService (r.service.leaves_backlog _ app).rules
  · exact IsOrderly.note (h.note _) _

theorem IsOrderly.harvest (h : r.IsOrderly) : (r.harvest app).IsOrderly := by
  have hend := (r.leaves_harvest app app).rules.isShutDown
  have hswapped : IsOrderly ((r.withAnswer .none).withService
      (r.service.swapOut .synthetic app).2) :=
    h.same (r.service.sameSettings_swapOut .synthetic app).sameRules rfl rfl
  rw [Run.harvest] at hend ⊢
  simp only at hend ⊢
  split
  · exact h.same (.refl _) rfl rfl
  next hactive =>
    rw [if_neg hactive] at hend
    rw [Bool.not_eq_true', Bool.not_eq_false] at hactive
    have hup : r.service.isShutDown = false := Service.isShutDown_of_isActive hactive
    refine IsOrderly.push ?_ (hend.trans hup)
    split
    · split
      · exact hswapped
      · exact hswapped.enqueue _
    · exact hswapped

theorem IsOrderly.endDrain (h : r.IsOrderly) (hup : r.service.isShutDown = false) :
    (r.endDrain app).IsOrderly := by
  refine (h.note _).push ?_
  rw [note_service]
  exact hup

theorem IsOrderly.drain (h : r.IsOrderly) (hup : r.service.isShutDown = false) (budget : Nat) :
    (r.drain app budget).IsOrderly := by
  unfold Run.drain
  split
  next budget ref backlog hpop =>
    have hpopped := h.withService (r.service.leaves_backlog backlog app).rules
    exact hpopped.send .synthetic ref fun _ => hup
  next => exact h.endDrain hup

theorem IsOrderly.requeue (h : r.IsOrderly) (ref : Ref) : (r.requeue ref).IsOrderly := by
  have hmoved := h.withService
    (r.service.leaves_backlog (r.service.backlog.requeue ref).2 "").rules
  rw [Run.requeue]
  generalize r.service.backlog.requeue ref = result at hmoved ⊢
  obtain ⟨dropped, backlog⟩ := result
  cases dropped with
  | none => exact hmoved
  | some ref' => exact IsOrderly.note (hmoved.note _) _

theorem IsOrderly.settleSynthetic (h : r.IsOrderly) (hup : r.service.isShutDown = false)
    (budget : Nat) (flight : Flight E) : (r.settleSynthetic app budget flight).IsOrderly := by
  have hnoted := h.note (.settled .synthetic flight.batch flight.outcome)
  rw [Run.settleSynthetic]
  cases hout : flight.outcome with
  | none =>
    rw [hout] at hnoted
    refine (hnoted.note _).push ?_
    rw [note_service, note_service]
    exact hup
  | some error =>
    rw [hout] at hnoted
    simp only
    split
    · refine IsOrderly.endDrain
        (IsOrderly.requeue (IsOrderly.note (hnoted.note _) _) flight.ref) ?_
      rw [(leaves_requeue _ "" flight.ref).rules.isShutDown, note_service, logUnsent_service,
        note_service]
      exact hup
    · refine IsOrderly.endDrain (IsOrderly.note (hnoted.note _) _) ?_
      rw [note_service, logUnsent_service, note_service]
      exact hup

/-- A batch that is sent is one of an application that is not barred. -/
theorem IsOrderly.harvestOrdinary (h : r.IsOrderly) (hcandid : r.service.IsCandid)
    (hup : r.service.isShutDown = false) : (r.harvestOrdinary app).IsOrderly := by
  have hrules := r.service.sameRules_askEnabled app
  have hasked := h.withService hrules
  have hdecided := hcandid.fst_askEnabled app
  have hbarred := hrules.isBarred app
  rw [Run.harvestOrdinary]
  generalize r.service.askEnabled app = result at hasked hdecided hbarred ⊢
  obtain ⟨enabled, s⟩ := result
  obtain rfl : enabled = _ := hdecided
  cases hcollected : r.service.isCollected app with
  | false => exact hasked.withService (s.sameSettings_removeOrdinary app).sameRules
  | true =>
    have hswap := (s.sameSettings_swapOut .ordinary app).sameRules
    have hswapped := hasked.withService hswap
    have hfree : (s.swapOut .ordinary app).2.isBarred app = false :=
      ((hswap.isBarred app).trans hbarred).trans (Service.isBarred_eq_false.2 ⟨hup, hcollected⟩)
    simp only [Bool.not_true, Bool.false_eq_true, if_false]
    generalize s.swapOut .ordinary app = result at hswapped hfree ⊢
    obtain ⟨swapped, s'⟩ := result
    split
    · exact hswapped
    · split
      · exact hswapped
      · refine IsOrderly.send (IsOrderly.note hswapped _) .ordinary _ fun flight => ?_
        rw [note_service]
        exact hfree

theorem IsOrderly.settleOrdinary (h : r.IsOrderly) (flight : Flight E) :
    (r.settleOrdinary app flight).IsOrderly := by
  have hnoted := h.note (.settled .ordinary flight.batch flight.outcome)
  rw [Run.settleOrdinary]
  cases hout : flight.outcome with
  | none =>
    rw [hout] at hnoted
    exact IsOrderly.note (IsOrderly.note (IsOrderly.note (hnoted.note _) _) _) _
  | some error =>
    rw [hout] at hnoted
    simp only
    split
    · refine IsOrderly.note (IsOrderly.withService (hnoted.note _) ?_) _
      exact (Service.sameSettings_getOrCreate _ .ordinary app).sameRules.trans
        (Service.sameSettings_mergeInto _ _ _).sameRules
    · exact IsOrderly.note (IsOrderly.withService (hnoted.note _)
        (Service.sameSettings_modify _ _ _).sameRules) _

end Harvest

/-! ### Steps -/

section Steps

variable {r : Run E Empty Unit}

/-- Nothing is relied on at the top, so the rules may change there. -/
theorem isOrderly_of_top (htransport : r.transport.IsDocile) {steps : List (Step E Empty)}
    (hstack : r.stack = [.steps steps]) (hsteps : ∀ s ∈ steps, s.IsOrderly) : r.IsOrderly := by
  refine ⟨htransport, ?_⟩
  rw [hstack]
  exact .top hsteps

theorem IsOrderly.start (h : r.IsOrderly) (hcandid : r.service.IsCandid) {s : Step E Empty}
    (hdocile : s.IsDocile) : (r.start (.idle E) s).IsOrderly := by
  cases hdocile with
  | record hask hbuild hturns => exact h.record hcandid (.record hask hbuild hturns)
  | harvest app => exact h.harvest
  | setCapacity n =>
    refine h.same ?_ (absorb_transport r _) (absorb_stack r _)
    change r.service.SameRules (r.absorb (r.service.setCapacity n)).service
    rw [absorb_service]
    exact r.service.sameRules_setCapacity n

theorem IsOrderly.startTop (h : r.IsOrderly) (hcandid : r.service.IsCandid)
    {s : Step E Empty} {rest : List (Step E Empty)} (hstack : r.stack = [.steps rest])
    (hs : s.IsOrderly) (hrest : ∀ s ∈ rest, s.IsOrderly) : (r.start (.idle E) s).IsOrderly := by
  rcases hs with hdocile | ⟨c, rfl⟩ | rfl
  · exact h.start hcandid hdocile
  · refine isOrderly_of_top ?_ ((absorb_stack r _).trans hstack) hrest
    change (r.absorb (r.service.change c)).transport.IsDocile
    rw [absorb_transport]
    exact h.transport
  · refine isOrderly_of_top ?_ ((absorb_stack r _).trans hstack) hrest
    change (r.absorb r.service.shutDown).transport.IsDocile
    rw [absorb_transport]
    exact h.transport

variable [HasPriority E]

theorem IsOrderly.resume (h : r.IsOrderly) (hcandid : r.service.IsCandid) {f : Frame E Empty}
    (hf : f.Relies r.service) : (r.resume (.idle E) f).IsOrderly := by
  cases f with
  | steps steps =>
    cases steps with
    | nil => exact h
    | cons s rest =>
      have hrest : IsOrderly (r.push (.steps rest)) :=
        h.push fun s' hs => hf s' (List.mem_cons_of_mem s hs)
      exact hrest.start hcandid (hf s List.mem_cons_self)
  | asked app job => exact h.afterAsk hf.1 hf.2
  | compete kind app job => exact h.compete kind hf.1 hf.2
  | built app job namesVersion goal => exact h.afterBuild hf.1 hf.2 namesVersion goal
  | offer kind app job ref => exact h.offerTo kind hf.1 hf.2 ref
  | drain app budget => exact h.drain hf budget
  | settleSynthetic app budget flight => exact h.settleSynthetic hf budget flight
  | ordinary app => exact h.harvestOrdinary hcandid hf
  | settleOrdinary app flight => exact h.settleOrdinary flight
  | foreground wasBackground => exact h.same (.refl _) rfl rfl

/-- **Each step** of an orderly run keeps it orderly. -/
theorem IsOrderly.next (h : r.IsOrderly) (hcandid : r.service.IsCandid) :
    (r.advance (.idle E) 1).IsOrderly := by
  have hshape := h.stack
  cases hstack : r.stack with
  | nil =>
    have hstep : r.step (.idle E) = none := by rw [step, hstack]
    rwa [advance_succ_of_none hstep]
  | cons f rest =>
    have hstep : r.step (.idle E) = some (Run.resume (.idle E) { r with stack := rest } f) := by
      rw [step, hstack]
    rw [advance_succ_of_some hstep, advance]
    rw [hstack] at hshape
    cases hshape with
    | cons hf hrest =>
      have hpopped : IsOrderly { r with stack := rest } := ⟨h.transport, hrest⟩
      exact hpopped.resume hcandid hf
    -- at the top the rules may change, since nothing is left that relies on them
    | @top steps hsteps =>
      cases steps with
      | nil => exact ⟨h.transport, .nil⟩
      | cons s rest =>
        have hrest : ∀ s' ∈ rest, s'.IsOrderly := fun s' hs => hsteps s' (List.mem_cons_of_mem s hs)
        have hpopped : IsOrderly { r with stack := [.steps rest] } := ⟨h.transport, .top hrest⟩
        exact hpopped.startTop hcandid rfl (hsteps s List.mem_cons_self) hrest

theorem IsOrderly.advance (h : r.IsOrderly) (hcandid : r.service.IsCandid) (n : Nat) :
    (r.advance (.idle E) n).IsOrderly := by
  induction n with
  | zero => exact h
  | succ n ih =>
    rw [advance_add]
    exact ih.next (isCandid_advance hcandid n)

omit [HasPriority E] in
/-- An orderly run revives no application. -/
theorem IsOrderly.not_revives (h : r.IsOrderly) (app : String) : ¬ r.Revives app := by
  rintro ⟨hbarred, hfate⟩
  have hshape := h.stack
  rw [fate?] at hfate
  cases hshape' : r.stack with
  | nil =>
    rw [hshape'] at hfate
    exact absurd hfate.symm (Option.some_ne_none _)
  | cons f rest =>
    rw [hshape'] at hfate hshape
    cases hshape with
    | cons hf hrest => exact hf.fate?_ne hbarred hfate
    | @top steps hsteps =>
      cases steps with
      | nil => exact absurd hfate.symm (Option.some_ne_none _)
      | cons s rest => exact (hsteps s List.mem_cons_self).fate?_ne r.service app hfate

/-- Nothing that a run whose rules change at the top only holds was brought to a barred
application. -/
theorem IsOrderly.isLive_advance (h : r.IsOrderly) (hcandid : r.service.IsCandid) {app : String}
    (hstart : r.service.isLive app = false) (n : Nat)
    (hbarred : (r.advance (.idle E) n).service.isBarred app) :
    (r.advance (.idle E) n).service.isLive app = false := by
  rw [← Bool.not_eq_true]
  intro hlive
  obtain ⟨m, -, hrevives, -⟩ := (isLive_advance_iff hcandid hstart n hbarred).1 hlive
  exact (h.advance hcandid m).not_revives app hrevives

/-- **When a barred application has a live ordinary reservoir**, in any run of a new service:
exactly if a record that had begun before, the ordinary half of a harvest, or a batch that is
retried brought one to it while it was barred, and nothing took it away since. In a run whose
rules change at the top only it never has one. -/
theorem isLive_iff_revived (settings : Config.Settings) (transport : Transport E Empty)
    (steps : List (Step E Empty)) (random : Random.Source) (app : String) (n : Nat)
    (hbarred : ((fresh settings transport steps random).advance (.idle E) n).service.isBarred app) :
    (((fresh settings transport steps random).advance (.idle E) n).service.isLive app ↔
      ∃ m < n, ((fresh settings transport steps random).advance (.idle E) m).Revives app ∧
        ∀ k, m < k → k < n →
          ((fresh settings transport steps random).advance (.idle E) k).fate? app ≠ some false) ∧
      (transport.IsDocile → (∀ s ∈ steps, s.IsOrderly) →
        ((fresh settings transport steps random).advance (.idle E) n).service.isLive app =
          false) := by
  have hcandid := isCandid_fresh settings transport steps random
  refine ⟨isLive_advance_iff hcandid rfl n hbarred, fun htransport hsteps => ?_⟩
  exact (isOrderly_of_top htransport rfl hsteps).isLive_advance hcandid rfl n hbarred

end Steps

open Simulation (Event)

/-- A run of one harvest, whose send fails in passing after some steps inside it, and of steps
after it. -/
def revivedRun (inside afterwards : List (Step Event Empty)) : Run Event Empty Unit :=
  fresh {} { planned := [⟨some (.transient "down"), inside⟩] }
    (.record "a" (transaction "a" 0.5) [] [] :: .harvest "a" :: afterwards) (.ofSeed 0)

theorem revives_revivedRun :
    (∃ m < 40, ((revivedRun [.shutDown] []).advance (.idle _) m).Revives "a" ∧
      ∀ k, m < k → k < 40 →
        ((revivedRun [.shutDown] []).advance (.idle _) k).fate? "a" ≠ some false) ∧
      ((revivedRun [] [.shutDown]).advance (.idle _) 40).service.isLive "a" = false := by
  refine ⟨(isLive_iff_revived _ _ _ _ "a" 40 (by decide +kernel)).1.1 (by decide +kernel),
    (isLive_iff_revived _ _ _ _ "a" 40 (by decide +kernel)).2 ?_ ?_⟩
  · intro reply hreply s hs
    obtain rfl := List.mem_singleton.1 hreply
    exact absurd hs List.not_mem_nil
  · intro s hs
    rcases List.mem_cons.1 hs with rfl | hs
    · refine .inl (.record (fun s hs => absurd hs List.not_mem_nil)
        (fun s hs => absurd hs List.not_mem_nil) fun turn hturn s hs => ?_)
      obtain rfl := List.mem_singleton.1 hturn
      exact absurd hs List.not_mem_nil
    rcases List.mem_cons.1 hs with rfl | hs
    · exact .inl (.harvest "a")
    · exact .inr (.inr (List.mem_singleton.1 hs))

/-- After a shutdown inside a send, or after the application has been disabled there, the batch
that is retried leaves a live reservoir. -/
theorem isLive_revivedRun :
    let down := (revivedRun [.shutDown] []).advance (.idle _) 40
    let disabled := (revivedRun [.change (.app "a" { enabled := false })] []).advance
      (.idle _) 40
    (down.stack.isEmpty ∧ down.service.isShutDown ∧ down.service.isLive "a") ∧
      (disabled.stack.isEmpty ∧ disabled.service.isCollected "a" = false ∧
        disabled.service.isLive "a") := by
  decide +kernel

end Run

end Telemetry.Events
