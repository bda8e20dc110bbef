import Telemetry.Proofs.Events.Outside
import Telemetry.Proofs.Events.Serving
import Telemetry.Proofs.Random.Source

/-!
# Calls carried out to their end

A call that nothing interferes with is over after a fixed number of steps, and what it comes to
can be said in terms of the service alone. `Run.ComesTo` is that judgement about a run: it comes
to rest within so many steps, with this service, and after these batches have been taken by the
transport. Its rules follow the stack, one for each way in which the functions of a run go on.

| call | what it comes to |
|---|---|
| `Step.recordDrawn` | `Service.taking`, after a sampling decision (`Has.perform_recordDrawn`) |
| `Step.harvest` | `Service.harvested`, whose batches are all taken (`Has.perform_harvest`) |

Both need a service that serves the application (`Service.Serves`), and a transport that takes
everything (`Transport.IsReliable`).
-/

namespace Telemetry.Events

open Sampling (HasPriority)

variable {E P S T : Type} {apps : List String} {N : Nat}

/-! ### Reliable transports -/

/-- **A transport that takes everything**: a transmitter that never fails, and inside whose sends
nothing runs. -/
structure Transport.IsReliable (t : Transport E P) : Prop where
  planned : t.planned = []
  transmitter : ∃ m, t.habit = .transmitting m ∧ m.failRate == 0.0 ∧ m.fault = none

theorem Transport.IsReliable.send {t : Transport E P} (h : t.IsReliable) (batch : Batch E) :
    (t.send batch).1 = ⟨none, []⟩ ∧ (t.send batch).2.IsReliable := by
  obtain ⟨planned, habit⟩ := t
  obtain rfl : planned = [] := h.planned
  obtain ⟨m, rfl, hrate, hfault⟩ := h.transmitter
  have hsent : (m.send batch).2.failRate == 0.0 ∧ (m.send batch).2.fault = none := by
    rw [m.send_of_faultless hfault]
    split <;> exact ⟨hrate, hfault⟩
  exact ⟨congrArg (Reply.mk · []) (m.send_of_failRate_zero hrate hfault batch), rfl, _, rfl, hsent⟩

namespace Run

/-- Where a run with a reliable transport is: what is still to be done, the service, and the batches
taken so far, latest first. -/
structure Has (r : Run E P S) (stack : List (Frame E P)) (s : Service E)
    (out : List (Kind × Batch E)) : Prop where
  stack : r.stack = stack
  service : r.service = s
  taken : r.taken = out
  transport : r.transport.IsReliable

variable {r r' : Run E P S} {stack : List (Frame E P)} {s s' : Service E}
  {out out' : List (Kind × Batch E)}

theorem Has.same (h : r.Has stack s out) (hstack : r'.stack = r.stack)
    (hservice : r'.service = r.service) (htransport : r'.transport = r.transport)
    (hnotes : r'.notes = r.notes) : r'.Has stack s out :=
  ⟨hstack.trans h.stack, hservice.trans h.service,
    (congrArg (·.filterMap Note.taken?) hnotes).trans h.taken, htransport ▸ h.transport⟩

theorem Has.note (h : r.Has stack s out) {n : Note E} (hn : n.taken? = none) :
    (r.note n).Has stack s out :=
  ⟨(note_stack r n).trans h.stack, (note_service r n).trans h.service,
    by rw [taken_note, hn]; exact h.taken, by rw [note_transport]; exact h.transport⟩

theorem Has.withService (h : r.Has stack s out) (s' : Service E) :
    (r.withService s').Has stack s' out :=
  ⟨h.stack, rfl, h.taken, h.transport⟩

theorem Has.push (h : r.Has stack s out) (f : Frame E P) : (r.push f).Has (f :: stack) s out :=
  ⟨congrArg (f :: ·) h.stack, h.service, h.taken, h.transport⟩

/-! ### Coming to rest -/

section ComesTo

variable [HasPriority E] {observer : Observer E P S} {n : Nat}

/-- **Within `n` steps the run is over**, and has a service and some batches taken. -/
def ComesTo (observer : Observer E P S) (n : Nat) (r : Run E P S)
    (s : Service E) (out : List (Kind × Batch E)) : Prop :=
  ∃ r' : Run E P S, r'.Has [] s out ∧ ∀ k, r.advance observer (n + k) = r'

theorem ComesTo.mono (h : r.ComesTo observer n s out) {n' : Nat} (hle : n ≤ n') :
    r.ComesTo observer n' s out := by
  obtain ⟨r', hhas, hadvance⟩ := h
  refine ⟨r', hhas, fun k => ?_⟩
  rw [← hadvance (n' - n + k)]
  congr 1
  omega

/-- A frame is resumed. -/
theorem ComesTo.resume {f : Frame E P} (h : (r.resume observer f).ComesTo observer n s out) :
    (r.push f).ComesTo observer (n + 1) s out := by
  obtain ⟨r', hhas, hadvance⟩ := h
  refine ⟨r', hhas, fun k => ?_⟩
  rw [Nat.add_right_comm]
  exact hadvance k

/-- Nothing runs inside. -/
theorem ComesTo.within {f : Frame E P} (h : (r.resume observer f).ComesTo observer n s out) :
    (r.within [] f).ComesTo observer (n + 2) s out :=
  ComesTo.resume h.resume

/-- The last frame, of a call that has nothing after it. -/
theorem Has.comesTo (h : r.Has [.steps []] s out) : r.ComesTo observer 1 s out := by
  refine ⟨{ r with stack := [] }, ⟨rfl, h.service, h.taken, h.transport⟩, fun k => ?_⟩
  have hstep : r.step observer = some { r with stack := [] } := by
    rw [step, h.stack]
    rfl
  rw [Nat.add_comm, advance_succ_of_some hstep]
  exact advance_of_none rfl k

/-- A call that nothing comes after: its weight leaves it steps enough. -/
theorem ComesTo.perform {step : Step E P} (hn : n ≤ step.weight)
    (h : ((r.push (.steps [])).start observer step).ComesTo observer n s out) :
    (r.perform observer step).Has [] s out := by
  obtain ⟨r', hhas, hadvance⟩ := h
  have hweight : n ≤ (r.push (.steps [step])).weight := by
    change n ≤ 1 + (step.weight + 0) + _ + _ + _
    omega
  have hperform : r.perform observer step = r' := by
    rw [← hadvance ((r.push (.steps [step])).weight - n), Nat.add_sub_of_le hweight]
    rfl
  rw [hperform]
  exact hhas

/-! ### Recording -/

variable {label : String → T} {app : String} {job : Job E P}

variable (observer) in
/-- An accepted offer ends a record. -/
theorem Has.comesTo_offerTo (h : r.Has [.steps []] s out) (kind : Kind) (app : String)
    (job : Job E P) {ref : Ref}
    (haccepted : (s.offer ref (HasPriority.priority job.work.event) job.work.event).1 = .accepted) :
    (r.offerTo kind app job ref).ComesTo observer 1
      (s.offer ref (HasPriority.priority job.work.event) job.work.event).2 out := by
  rw [Run.offerTo_eq, h.service]
  generalize s.offer ref (HasPriority.priority job.work.event) job.work.event = result
    at haccepted ⊢
  obtain ⟨decision, s'⟩ := result
  obtain rfl : decision = .accepted := haccepted
  refine Has.comesTo ?_
  cases kind with
  | ordinary => exact (h.withService s').same rfl rfl rfl rfl
  | synthetic => exact ((h.withService s').note (n := .record _) rfl).same rfl rfl rfl rfl

/-- **A record of a known priority**, from where the priority has been asked. -/
theorem Has.comesTo_afterAsk (h : r.Has [.steps []] s out) (hserves : s.Serves apps N)
    (hroom : (s.holding label 0).card < N) (happ : app ∈ apps) {work : Work E}
    (hnumber : Double.isNumber work.priority)
    (hevent : Double.isNumber (HasPriority.priority work.event)) :
    (r.afterAsk app ⟨work, some [], []⟩).ComesTo observer 3 (s.taking app work) out := by
  obtain rfl := h.service
  unfold Run.afterAsk Service.taking
  simp only
  split
  next =>
    -- a synthetic event is built at once
    have hshared : Service.Gains label apps N r.service
        (r.service.internAt r.service.namesVersion work.name) 0 :=
      hserves.gains_same (r.service.sameSettings_internAt _ _)
        (r.service.sameReservoirs_internAt _ _)
    have haccepted := (hshared.serves.gains_compete (hshared.room hroom) .synthetic happ hevent
      work.event (.refl _) (.refl _)).1
    have hbuilt := h.withService (r.service.internAt r.service.namesVersion work.name)
    have hgot := hbuilt.withService
      ((r.service.internAt r.service.namesVersion work.name).getOrCreate .synthetic app).2
    have hdone := hgot.comesTo_offerTo observer .synthetic app ⟨work, none, []⟩ haccepted
    exact ComesTo.within hdone
  next =>
    have hlive := r.service.liveRef?_getOrCreate .ordinary app
    have hgot : Service.Gains label apps N r.service
        (r.service.getOrCreate .ordinary app).2 0 := hserves.gains_getOrCreate .ordinary happ
    have hwould := (hserves.takes hroom .ordinary happ hevent).wouldAccept
      (hgot.serves.sound.isOpen hlive) hnumber
    have haccepted := (hserves.gains_compete hroom .ordinary happ hevent work.event
      (Service.sameSettings_internAt _ (r.service.getOrCreate .ordinary app).2.namesVersion _)
      (Service.sameReservoirs_internAt _ _ work.name)).1
    unfold Run.compete
    simp only
    rw [if_pos hwould]
    have hbuilt := h.withService ((r.service.getOrCreate .ordinary app).2.internAt
      (r.service.getOrCreate .ordinary app).2.namesVersion work.name)
    have hdone := hbuilt.comesTo_offerTo observer .ordinary app ⟨work, none, []⟩ haccepted
    exact ComesTo.within hdone

/-- **A record** asks for the priority, and goes on from there. -/
theorem Has.comesTo_record (h : r.Has [.steps []] s out) (hserves : s.Serves apps N)
    (hroom : (s.holding label 0).card < N) (happ : app ∈ apps) {work : Work E}
    (hnumber : Double.isNumber work.priority)
    (hevent : Double.isNumber (HasPriority.priority work.event)) :
    (r.record app work [] [] []).ComesTo observer 5 ((s.askEnabled app).2.taking app work) out := by
  obtain rfl := h.service
  have hasked : Service.Gains label apps N r.service (r.service.askEnabled app).2 0 :=
    hserves.gains_askEnabled app
  unfold Run.record
  simp only [hserves.isActive, hserves.fst_askEnabled happ, Bool.not_true, Bool.false_eq_true,
    if_false]
  exact ComesTo.within ((h.withService (r.service.askEnabled app).2).comesTo_afterAsk
    hasked.serves (hasked.room hroom) happ hnumber hevent)

/-- **An event with a drawn priority** is recorded. -/
theorem Has.perform_recordDrawn (h : r.Has [] s out) (hserves : s.Serves apps N)
    (hroom : (s.holding label 0).card < N) (happ : app ∈ apps) {make : Nat → Float → Work E}
    {work : Work E} (hwork : make (r.numbered + 1) (r.drawPriority app).lastDrawn = work)
    (hnumber : Double.isNumber work.priority)
    (hevent : Double.isNumber (HasPriority.priority work.event)) :
    (r.perform observer (.recordDrawn app make)).Has []
      (((s.decideNext app r.random.unit.1).2.askEnabled app).2.taking app work) out := by
  obtain rfl := h.service
  subst hwork
  refine ComesTo.perform (n := 5) (show 5 ≤ 14 by decide) ?_
  have hdecided : Service.Gains label apps N r.service
      (r.service.decideNext app r.random.unit.1).2 0 := hserves.gains_decideNext happ _
  have hdrawn : Has { (r.push (.steps [])).drawPriority app with numbered := r.numbered + 1 }
      [.steps []] (r.service.decideNext app r.random.unit.1).2 out :=
    ((h.push _).withService _).same rfl rfl rfl rfl
  exact hdrawn.comesTo_record hdecided.serves (hdecided.room hroom) happ hnumber hevent

/-! ### Harvesting -/

/-- A batch that is sent is taken, and its outcome is next. -/
theorem Has.comesTo_send (h : r.Has stack s out) (kind : Kind) (ref : Ref)
    {settle : Flight E → Frame E P}
    (hsettle : ∀ r' : Run E P S, r'.Has stack s ((kind, s.batch ref) :: out) →
      (r'.resume observer (settle ⟨ref, s.batch ref, none⟩)).ComesTo observer n s' out') :
    (r.send kind ref settle).ComesTo observer (n + 2) s' out' := by
  obtain rfl := h.service
  obtain ⟨hreply, htransport⟩ := h.transport.send (r.service.batch ref)
  rw [send_eq, show r.replyTo ref = ⟨none, []⟩ from hreply]
  refine ComesTo.within (hsettle _ ⟨(note_stack _ _).trans h.stack, note_service _ _, ?_, ?_⟩)
  · rw [taken_note]
    exact congrArg (_ :: ·) h.taken
  · rw [note_transport]
    exact htransport

/-- **The second half of a harvest** sends what the live ordinary reservoir held. -/
theorem Has.comesTo_harvestOrdinary (h : r.Has [.steps []] s out) (hserves : s.Serves apps N)
    (happ : app ∈ apps) :
    (r.harvestOrdinary app).ComesTo observer 3 ((s.askEnabled app).2.swapOut .ordinary app).2
      (((s.askEnabled app).2.swapOut .ordinary app).2.batches .ordinary
        ((s.askEnabled app).2.swapOut .ordinary app).1 ++ out) := by
  obtain rfl := h.service
  have hswapped := h.withService ((r.service.askEnabled app).2.swapOut .ordinary app).2
  unfold Run.harvestOrdinary
  simp only [hserves.fst_askEnabled happ, Bool.not_true, Bool.false_eq_true, if_false]
  generalize (r.service.askEnabled app).2.swapOut .ordinary app = result at hswapped ⊢
  obtain ⟨swapped, s'⟩ := result
  simp only at hswapped ⊢
  cases swapped with
  | none => exact hswapped.comesTo.mono (by decide)
  | some ref =>
    cases hempty : (s'.reservoir ref).isEmpty with
    | true =>
      rw [Service.batches_of_isEmpty hempty]
      simp only [hempty, if_true]
      exact hswapped.comesTo.mono (by decide)
    | false =>
      rw [Service.batches_of_held hempty]
      simp only [hempty, Bool.false_eq_true, if_false]
      refine Has.comesTo_send (hswapped.note rfl) .ordinary ref fun r' hr' => ?_
      have hsettled := Has.note (n := .settled .ordinary (s'.batch ref) none) hr' rfl
      exact Has.comesTo (Has.note (Has.note (Has.note (Has.note hsettled rfl) rfl) rfl) rfl)

theorem Has.comesTo_endDrain (h : r.Has [.steps []] s out) (hserves : s.Serves apps N)
    (happ : app ∈ apps) :
    (r.endDrain app).ComesTo observer 4 ((s.askEnabled app).2.swapOut .ordinary app).2
      (((s.askEnabled app).2.swapOut .ordinary app).2.batches .ordinary
        ((s.askEnabled app).2.swapOut .ordinary app).1 ++ out) :=
  ComesTo.resume ((h.note rfl).comesTo_harvestOrdinary hserves happ)

omit [HasPriority E] in
/-- A drain with nothing waiting is at its end, whatever the budget. -/
theorem drain_of_nil (hqueue : r.service.backlog.queue = []) (app : String) (budget : Nat) :
    r.drain app budget = r.endDrain app := by
  unfold Run.drain Backlog.pop?
  rw [hqueue]
  cases budget <;> rfl

omit [HasPriority E] in
theorem withQueue_nil (hqueue : s.backlog.queue = []) :
    { s with backlog := { s.backlog with queue := [] } } = s := by
  have hsame : { s with backlog := { s.backlog with queue := s.backlog.queue } } = s := rfl
  rwa [hqueue] at hsame

/-- **A drain of the only batch that waits** sends it, and is at its end. -/
theorem Has.comesTo_drain {ref : Ref}
    (h : r.Has [.steps []] { s with backlog := { s.backlog with queue := [ref] } } out)
    (hserves : s.Serves apps N) (happ : app ∈ apps) {budget : Nat} (hbudget : 0 < budget) :
    (r.drain app budget).ComesTo observer 7 ((s.askEnabled app).2.swapOut .ordinary app).2
      (((s.askEnabled app).2.swapOut .ordinary app).2.batches .ordinary
        ((s.askEnabled app).2.swapOut .ordinary app).1 ++ (.synthetic, s.batch ref) :: out) := by
  obtain ⟨budget, rfl⟩ := Nat.exists_eq_succ_of_ne_zero (Nat.ne_of_gt hbudget)
  have hpop : r.drain app (budget + 1) =
      (r.withService s).send .synthetic ref (.settleSynthetic app budget) := by
    unfold Run.drain Backlog.pop?
    simp only [h.service, withQueue_nil hserves.queue]
  rw [Nat.succ_eq_add_one, hpop]
  refine (h.withService s).comesTo_send .synthetic ref fun r' hr' => ?_
  have hsettled := Has.note (n := .settled .synthetic (s.batch ref) none) hr' rfl
  have hcounted := Has.note (n := .counted "events.synthetics.sent" (s.batch ref).events.length
    [appTag (s.batch ref).app]) hsettled rfl
  refine ComesTo.resume ?_
  change (Run.drain _ app budget).ComesTo observer 4 _ _
  rw [drain_of_nil ((congrArg (·.backlog.queue) hcounted.service).trans hserves.queue)]
  exact hcounted.comesTo_endDrain hserves happ

theorem Has.comesTo_harvest (h : r.Has [.steps []] s out) (hserves : s.Serves apps N)
    (happ : app ∈ apps) :
    (r.harvest app).ComesTo observer 8 (s.harvested app).2
      ((s.harvested app).1.reverse ++ out) := by
  have hstart : (r.withAnswer .none).Has [.steps []] s out := h.same rfl rfl rfl rfl
  unfold Run.harvest Service.harvested
  generalize r.withAnswer .none = r at hstart ⊢
  obtain rfl := hstart.service
  have hserves' := hserves.swapOut .synthetic happ
  have hswapped := hstart.withService (r.service.swapOut .synthetic app).2
  simp only [List.reverse_append, List.append_assoc, Service.reverse_batches, hserves.isActive,
    Bool.not_true, Bool.false_eq_true, if_false]
  generalize r.service.swapOut .synthetic app = result at hserves' hswapped ⊢
  obtain ⟨swapped, s⟩ := result
  simp only at hserves' hswapped ⊢
  -- nothing waits, unless the reservoir that is swapped out holds something
  have hnothing : ∀ budget, ((r.withService s).push (.drain app budget)).ComesTo observer 8
      ((s.askEnabled app).2.swapOut .ordinary app).2
      (((s.askEnabled app).2.swapOut .ordinary app).2.batches .ordinary
        ((s.askEnabled app).2.swapOut .ordinary app).1 ++ out) := fun budget => by
    refine ComesTo.mono (ComesTo.resume ?_) (show 4 + 1 ≤ 8 by decide)
    change (Run.drain _ app budget).ComesTo observer 4 _ _
    rw [drain_of_nil hserves'.queue]
    exact hswapped.comesTo_endDrain hserves' happ
  cases swapped with
  | none => exact hnothing _
  | some ref =>
    cases hempty : (s.reservoir ref).isEmpty with
    | true =>
      rw [Service.batches_of_isEmpty hempty]
      simp only [hempty, if_true]
      exact hnothing _
    | false =>
      have hpush : (r.withService s).service.backlog.push ref =
          .ok { s.backlog with queue := [ref] } := by
        change s.backlog.push ref = _
        rw [Backlog.push, Backlog.size, hserves'.queue]
        exact if_neg (Nat.not_le.2 hserves'.backlog)
      rw [Service.batches_of_held hempty]
      simp only [hempty, Run.enqueue, hpush, Bool.false_eq_true, if_false]
      exact ComesTo.resume ((hswapped.withService _).comesTo_drain hserves' happ hserves'.budget)

/-- **A harvest** comes to what it makes of the service, and all its batches are taken. -/
theorem Has.perform_harvest (h : r.Has [] s out) (hserves : s.Serves apps N) (happ : app ∈ apps) :
    (r.perform observer (.harvest app)).Has [] (s.harvested app).2
      ((s.harvested app).1.reverse ++ out) :=
  ComesTo.perform (n := 8) (show 8 ≤ 12 by decide) ((h.push _).comesTo_harvest hserves happ)

end ComesTo

end Run

end Telemetry.Events
