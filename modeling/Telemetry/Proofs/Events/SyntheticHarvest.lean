import Telemetry.Proofs.Events.Arrival
import Telemetry.Proofs.Events.Backlog
import Telemetry.Proofs.Events.OrdinaryHarvest

/-!
# The synthetic half of a harvest

A harvest puts a new reservoir in the place of the live synthetic one of its application, queues
the old one (`Service.waiting`), and sends what waits, oldest first. The drain ends with the first
failure, if neither the budget nor the batches come to their end before (`Service.Drained`):

| the drain | what waits afterwards |
|---|---|
| was unbroken | whatever has not been sent |
| met a batch that was turned down | the batches behind that one |
| met a batch that failed in passing | that batch and those behind, but for the newest of too many |

`Run.harvest_synthetic` says so of any service, be it one that a run can reach or not: the backlog
may hold what it likes, also more than its capacity. So there is no invariant of runs to end the
call by, and the steps are counted instead (`Run.EndsWithin`): three for each batch that waits.

The ordinary half comes last. It leaves alone what the synthetic half has brought about
(`Service.Renewed`).
-/

namespace Telemetry.Events

open Sampling (HasPriority Reservoir)

variable {E P S : Type}

/-! ### What is sent, and what waits -/

/-- The outcomes of sending some batches, one after the other. -/
def Transport.outcomes (t : Transport E P) : List (Batch E) → List Outcome
  | [] => []
  | batch :: later => (t.send batch).1.outcome :: (t.send batch).2.outcomes later

namespace Service

/-- **No reference dangles**: whatever is live or waits is in the pool. -/
structure IsInPool (s : Service E) : Prop where
  live : ∀ {kind app ref}, s.liveRef? kind app = some ref → ref < s.pool.size
  queue : ∀ ref ∈ s.backlog.queue, ref < s.pool.size

/-- This is so at any point of any run. -/
theorem IsReached.isInPool [HasPriority E] {s : Service E} (h : s.IsReached) : s.IsInPool := by
  have hsound := (Run.isProper_calling h {} (.ofSeed 0)).sound
  refine ⟨fun hlive => (hsound.service.live hlive).lt, fun ref hm => ?_⟩
  obtain ⟨app, hbelongs⟩ := hsound.waiting ref hm
  exact hbelongs.lt

/-- **What waits once a harvest has queued** the live synthetic reservoir of its application: that
one as well, if it holds anything and there is room. -/
def waiting (s : Service E) (app : String) : List Ref :=
  match s.liveRef? .synthetic app with
  | some ref =>
    if ¬ (s.reservoir ref).isEmpty ∧ s.backlog.size < s.backlog.capacity then
      s.backlog.queue ++ [ref]
    else s.backlog.queue
  | none => s.backlog.queue

/-- **A drain of a queue**: what is sent, with the outcomes, and what is left to wait. -/
inductive Drained (batch : Ref → Batch E) (capacity budget : Nat) (queue : List Ref) :
    List (Batch E × Outcome) → List Ref → Prop
  | unbroken : Drained batch capacity budget queue
      ((queue.take budget).map fun ref => (batch ref, none)) (queue.drop budget)
  | turnedDown {before after : List Ref} {ref : Ref} {error : TransmitError}
    (hqueue : queue = before ++ ref :: after) (hbudget : before.length < budget)
    (herror : error.isTransient = false) : Drained batch capacity budget queue
      ((before.map fun ref => (batch ref, none)) ++ [(batch ref, some error)]) after
  | putBack {before after : List Ref} {ref : Ref} {error : TransmitError}
    (hqueue : queue = before ++ ref :: after) (hbudget : before.length < budget)
    (herror : error.isTransient) : Drained batch capacity budget queue
      ((before.map fun ref => (batch ref, none)) ++ [(batch ref, some error)])
      (ref :: if max capacity 1 < after.length + 1 then after.dropLast else after)

/-- A batch is delivered before. -/
theorem Drained.cons {batch : Ref → Batch E} {capacity budget : Nat} {queue left : List Ref}
    {sends : List (Batch E × Outcome)} (h : Drained batch capacity budget queue sends left)
    (ref : Ref) :
    Drained batch capacity (budget + 1) (ref :: queue) ((batch ref, none) :: sends) left := by
  cases h with
  | unbroken => exact .unbroken
  | turnedDown hqueue hbudget herror =>
    have hqueue' : ref :: queue = (ref :: _) ++ _ :: left := congrArg (ref :: ·) hqueue
    exact .turnedDown hqueue' (Nat.succ_lt_succ hbudget) herror
  | putBack hqueue hbudget herror =>
    have hqueue' : ref :: queue = (ref :: _) ++ _ :: _ := congrArg (ref :: ·) hqueue
    exact .putBack hqueue' (Nat.succ_lt_succ hbudget) herror

/-- Only the batches of the queue matter. -/
theorem Drained.congr {batch batch' : Ref → Batch E} {capacity budget : Nat}
    {queue left : List Ref} {sends : List (Batch E × Outcome)}
    (h : Drained batch capacity budget queue sends left)
    (hbatch : ∀ ref ∈ queue, batch ref = batch' ref) :
    Drained batch' capacity budget queue sends left := by
  have hmap : ∀ {refs : List Ref}, (∀ ref ∈ refs, ref ∈ queue) →
      refs.map (fun ref => (batch ref, (none : Outcome))) =
        refs.map fun ref => (batch' ref, none) := fun hsub =>
    List.map_congr_left fun ref hm => by rw [hbatch ref (hsub ref hm)]
  cases h with
  | unbroken =>
    rw [hmap fun ref hm => List.mem_of_mem_take hm]
    exact .unbroken
  | turnedDown hqueue hbudget herror =>
    rw [hmap fun ref hm => hqueue ▸ List.mem_append_left _ hm,
      hbatch _ (hqueue ▸ List.mem_append_right _ List.mem_cons_self)]
    exact .turnedDown hqueue hbudget herror
  | putBack hqueue hbudget herror =>
    rw [hmap fun ref hm => hqueue ▸ List.mem_append_left _ hm,
      hbatch _ (hqueue ▸ List.mem_append_right _ List.mem_cons_self)]
    exact .putBack hqueue hbudget herror

/-! ### The reservoirs -/

section Swap

variable {s s' : Service E} {kind : Kind} {app : String} {queue : List Ref}

theorem size_swapOut (s : Service E) (kind : Kind) (app : String) :
    (s.swapOut kind app).2.pool.size = s.pool.size + 1 := by
  cases hlive : s.liveRef? kind app with
  | none => rw [swapOut_snd_of_none hlive, size_install]
  | some ref => rw [swapOut_snd_of_some hlive, size_modify, size_install]

/-- What a swap makes live is new, unless the place for it was taken before. -/
theorem reservoir_swapOut_size (hfree : s.liveRef? kind app ≠ some s.pool.size) :
    (s.swapOut kind app).2.reservoir s.pool.size =
      s.freshReservoir kind app (s.liveTries kind app) := by
  cases hlive : s.liveRef? kind app with
  | none => rw [swapOut_snd_of_none hlive, reservoir_install_self]
  | some ref =>
    have hne : s.pool.size ≠ ref := fun heq => hfree (heq ▸ hlive)
    rw [swapOut_snd_of_some hlive, reservoir_modify_of_ne _ hne, reservoir_install_self]

/-- A swap leaves the other reservoirs alone. -/
theorem reservoir_swapOut_of_ne {ref : Ref} (hlt : ref < s.pool.size)
    (hother : s.liveRef? kind app ≠ some ref) :
    (s.swapOut kind app).2.reservoir ref = s.reservoir ref := by
  cases hlive : s.liveRef? kind app with
  | none => rw [swapOut_snd_of_none hlive, reservoir_install hlt]
  | some previous =>
    have hne : ref ≠ previous := fun heq => hother (heq ▸ hlive)
    rw [swapOut_snd_of_some hlive, reservoir_modify_of_ne _ hne, reservoir_install hlt]

/-- **A batch does not change** when its reservoir is swapped out. -/
theorem batch_swapOut {ref : Ref} (hlt : ref < s.pool.size) (kind : Kind) (app : String) :
    (s.swapOut kind app).2.batch ref = s.batch ref := by
  by_cases hlive : s.liveRef? kind app = some ref
  · have hsealed : (s.swapOut kind app).2.reservoir ref = (s.reservoir ref).sealed := by
      rw [swapOut_snd_of_some hlive, reservoir_modify_self, reservoir_install hlt]
      rw [size_install]
      exact Nat.lt_succ_of_lt hlt
    rw [batch, hsealed]
    rfl
  · rw [batch, reservoir_swapOut_of_ne hlt hlive]
    rfl

/-- **The live synthetic reservoir of an application has been replaced** by a new one, and these
batches wait. -/
structure Renewed (app : String) (s : Service E) (queue : List Ref) (s' : Service E) : Prop where
  size : s.pool.size < s'.pool.size
  live : s'.liveRef? .synthetic app = some s.pool.size
  fresh : s'.reservoir s.pool.size = s.freshReservoir .synthetic app (s.liveTries .synthetic app)
  /-- The ordinary half has to do with another reservoir. -/
  apart : s'.liveRef? .ordinary app ≠ some s.pool.size
  queue : s'.backlog.queue = queue

theorem IsInPool.renewed (h : s.IsInPool) (app : String) :
    s.Renewed app s.backlog.queue (s.swapOut .synthetic app).2 where
  size := (s.size_swapOut .synthetic app).ge
  live := by rw [liveRef?_swapOut, if_pos ⟨rfl, rfl⟩]
  fresh := reservoir_swapOut_size fun hlive => Nat.lt_irrefl _ (h.live hlive)
  apart hlive := by
    rw [liveRef?_swapOut, if_neg fun hcon => nomatch hcon.1] at hlive
    exact Nat.lt_irrefl _ (h.live hlive)
  queue := congrArg Backlog.queue (s.backlog_swapOut .synthetic app)

theorem IsInPool.waiting (h : s.IsInPool) (app : String) :
    ∀ ref ∈ s.waiting app, ref < s.pool.size := by
  intro ref hm
  rw [Service.waiting] at hm
  split at hm
  next live hlive =>
    split at hm
    · rcases List.mem_append.1 hm with hm | hm
      · exact h.queue ref hm
      · rw [List.mem_singleton.1 hm]
        exact h.live hlive
    · exact h.queue ref hm
  next => exact h.queue ref hm

theorem length_waiting_le (s : Service E) (app : String) :
    (s.waiting app).length ≤ s.backlog.size + 1 := by
  rw [waiting]
  split
  · split
    · exact Nat.le_of_eq List.length_append
    · exact Nat.le_succ _
  · exact Nat.le_succ _

theorem isEmpty_swapOut {ref : Ref} (h : s.IsInPool) (hlive : s.liveRef? kind app = some ref) :
    ((s.swapOut kind app).2.reservoir ref).isEmpty = (s.reservoir ref).isEmpty := by
  have hlt := h.live hlive
  rw [swapOut_snd_of_some hlive, reservoir_modify_self, reservoir_install hlt]
  · rfl
  · rw [size_install]
    exact Nat.lt_succ_of_lt hlt

theorem Renewed.withQueue (h : s.Renewed app queue s') (queue' : List Ref) :
    s.Renewed app queue' { s' with backlog := { s'.backlog with queue := queue' } } where
  size := h.size
  live := h.live
  fresh := h.fresh
  apart := h.apart
  queue := rfl

theorem Renewed.askEnabled (h : s.Renewed app queue s') (app' : String) :
    s.Renewed app queue (s'.askEnabled app').2 := by
  have hsame := s'.sameReservoirs_askEnabled app'
  refine ⟨?_, ?_, ?_, ?_, hsame.queue.trans h.queue⟩
  · rw [hsame.pool]
    exact h.size
  · rw [hsame.liveRef?]
    exact h.live
  · rw [hsame.reservoir]
    exact h.fresh
  · rw [hsame.liveRef?]
    exact h.apart

theorem Renewed.removeOrdinary (h : s.Renewed app queue s') :
    s.Renewed app queue (s'.removeOrdinary app) where
  size := h.size
  live := (Store.get?_remove ..).trans ((if_neg fun hcon => nomatch hcon.1).trans h.live)
  fresh := h.fresh
  apart hlive := h.apart ((s'.retires_removeOrdinary app).live hlive)
  queue := h.queue

theorem Renewed.modify (h : s.Renewed app queue s') {ref : Ref} (hne : ref ≠ s.pool.size)
    (f : Reservoir E → Reservoir E) : s.Renewed app queue (s'.modify ref f) where
  size := (size_modify s' ref f).symm ▸ h.size
  live := h.live
  fresh := (s'.reservoir_modify_of_ne hne.symm f).trans h.fresh
  apart := h.apart
  queue := h.queue

theorem Renewed.mergeInto (h : s.Renewed app queue s') {target source : Ref}
    (htarget : target ≠ s.pool.size) (hsource : source ≠ s.pool.size) :
    s.Renewed app queue (s'.mergeInto target source) := by
  rw [Service.mergeInto]
  split
  · exact h
  · exact (h.modify hsource _).modify htarget _

theorem Renewed.swapOut_ordinary (h : s.Renewed app queue s') :
    s.Renewed app queue (s'.swapOut .ordinary app).2 where
  size := (s'.size_swapOut .ordinary app).symm ▸ Nat.lt_succ_of_lt h.size
  live := by
    rw [liveRef?_swapOut, if_neg fun hcon => nomatch hcon.1]
    exact h.live
  fresh := (reservoir_swapOut_of_ne h.size h.apart).trans h.fresh
  apart hlive := by
    rw [liveRef?_swapOut, if_pos ⟨rfl, rfl⟩] at hlive
    exact Nat.ne_of_gt h.size (Option.some.inj hlive)
  queue := (congrArg Backlog.queue (s'.backlog_swapOut .ordinary app)).trans h.queue

theorem Renewed.getOrCreate_ordinary (h : s.Renewed app queue s') :
    (s'.getOrCreate .ordinary app).1 ≠ s.pool.size ∧
      s.Renewed app queue (s'.getOrCreate .ordinary app).2 := by
  cases hlive : s'.liveRef? .ordinary app with
  | some ref =>
    rw [getOrCreate_of_some hlive]
    exact ⟨fun heq => h.apart (heq ▸ hlive), h⟩
  | none =>
    have hswapped := h.swapOut_ordinary
    rw [swapOut_snd_of_none hlive, liveTries, hlive] at hswapped
    rw [getOrCreate_of_none hlive]
    exact ⟨Nat.ne_of_gt h.size, hswapped⟩

end Swap

end Service

/-- The batch that is being handed over, and the outcome to come. -/
def Note.attempt? : Note E → Option (Kind × Batch E × Outcome)
  | .attempt kind batch outcome => some (kind, batch, outcome)
  | _ => none

namespace Run

/-- The batches handed to the transport, with their outcomes, latest first. -/
def attempts (r : Run E P S) : List (Kind × Batch E × Outcome) := r.notes.filterMap Note.attempt?

@[simp] theorem attempts_note (r : Run E P S) (n : Note E) :
    (r.note n).attempts = n.attempt?.toList ++ r.attempts :=
  r.filterMap_note n fun h => by cases n <;> first | rfl | exact absurd h (by simp [Note.isPublic])

/-! ### Steps are counted -/

section EndsWithin

variable [HasPriority E] {observer : Observer E P S} {p : Run E P S → Prop} {r : Run E P S}
  {m n : Nat}

/-- **The run ends within some steps**, in a state of which `p` holds. -/
def EndsWithin (observer : Observer E P S) (n : Nat) (p : Run E P S → Prop) (r : Run E P S) :
    Prop :=
  (r.advance observer n).stack = [] ∧ p (r.advance observer n)

theorem EndsWithin.mono (h : r.EndsWithin observer m p) (hle : m ≤ n) :
    r.EndsWithin observer n p := by
  obtain ⟨k, rfl⟩ := Nat.exists_eq_add_of_le hle
  unfold EndsWithin
  rw [advance_add, advance_of_none (step_eq_none_iff.2 h.1)]
  exact h

/-- A frame is resumed. -/
theorem EndsWithin.push {f : Frame E P} (h : (r.resume observer f).EndsWithin observer n p) :
    (r.push f).EndsWithin observer (n + 1) p := by
  have hstep : (r.push f).step observer = some (r.resume observer f) := rfl
  unfold EndsWithin
  rw [advance_succ_of_some hstep]
  exact h

/-- Nothing runs before a frame is resumed. -/
theorem EndsWithin.within {f : Frame E P} (h : (r.resume observer f).EndsWithin observer n p) :
    (r.within [] f).EndsWithin observer (n + 2) p :=
  .push (f := .steps []) h.push

/-- Nothing is left to be done but to end. -/
theorem EndsWithin.last (hstack : r.stack = [.steps []]) (hp : p { r with stack := [] }) :
    r.EndsWithin observer 1 p := by
  have hstep : r.step observer = some { r with stack := [] } := by
    rw [Run.step, hstack]
    rfl
  unfold EndsWithin
  rw [advance_succ_of_some hstep]
  exact ⟨rfl, hp⟩

/-- **A call comes to its end** if that is within its weight. -/
theorem EndsWithin.perform {s : Step E P}
    (h : ((r.push (.steps [])).start observer s).EndsWithin observer n p)
    (hn : n ≤ (r.push (.steps [s])).weight) :
    (r.perform observer s).stack = [] ∧ p (r.perform observer s) :=
  (EndsWithin.push (f := .steps [s]) h).mono (Nat.succ_le_succ hn)

end EndsWithin

/-! ### The ordinary half -/

/-- **The synthetic half is over**: these synthetic batches have been sent, and only ordinary ones
since. -/
structure HasRenewed (app : String) (s : Service E) (queue : List Ref)
    (sends : List (Batch E × Outcome)) (r : Run E P S) : Prop where
  stack : r.stack = [.steps []]
  service : s.Renewed app queue r.service
  attempts : ∃ ordinary : List (Batch E × Outcome), r.attempts.reverse =
    sends.map (Prod.mk Kind.synthetic) ++ ordinary.map (Prod.mk Kind.ordinary)

section Ordinary

variable {app : String} {s s' : Service E} {queue : List Ref} {sends : List (Batch E × Outcome)}
  {r : Run E P S}

theorem HasRenewed.note (h : r.HasRenewed app s queue sends) {n : Note E}
    (hn : n.attempt? = none) : (r.note n).HasRenewed app s queue sends where
  stack := (note_stack r n).trans h.stack
  service := by
    rw [note_service]
    exact h.service
  attempts := by
    rw [attempts_note, hn]
    exact h.attempts

theorem HasRenewed.withService (h : r.HasRenewed app s queue sends)
    (hs : s.Renewed app queue s') : (r.withService s').HasRenewed app s queue sends :=
  ⟨h.stack, hs, h.attempts⟩

/-- One more ordinary batch is handed over. -/
theorem HasRenewed.attempt (h : r.HasRenewed app s queue sends) (transport : Transport E P)
    (batch : Batch E) (outcome : Outcome) :
    ({ r with transport := transport }.note (.attempt .ordinary batch outcome)).HasRenewed app s
      queue sends where
  stack := (note_stack _ _).trans h.stack
  service := by
    rw [note_service]
    exact h.service
  attempts := by
    obtain ⟨ordinary, hattempts⟩ := h.attempts
    refine ⟨ordinary ++ [(batch, outcome)], ?_⟩
    rw [attempts_note, List.map_append, ← List.append_assoc, ← hattempts]
    exact List.reverse_cons

/-- **The outcome of an ordinary batch** concerns other reservoirs. -/
theorem HasRenewed.settleOrdinary (h : r.HasRenewed app s queue sends) {flight : Flight E}
    (hne : flight.ref ≠ s.pool.size) :
    (r.settleOrdinary app flight).HasRenewed app s queue sends := by
  have hsettled : ∀ outcome,
      (r.note (.settled .ordinary flight.batch outcome)).HasRenewed app s queue sends :=
    fun outcome => h.note rfl
  rw [Run.settleOrdinary]
  cases flight.outcome with
  | none => exact ((((hsettled none).note rfl).note rfl).note rfl).note rfl
  | some error =>
    have hlogged : ∀ message, ((r.note (.settled .ordinary flight.batch (some error))).logUnsent app
        message error).HasRenewed app s queue sends :=
      fun message => (hsettled (some error)).note rfl
    simp only
    split
    · obtain ⟨hlive, hgot⟩ := ((hlogged _).service).getOrCreate_ordinary
      exact ((hlogged _).withService (hgot.mergeInto hlive hne)).note rfl
    · exact ((hlogged _).withService ((hlogged _).service.modify hne _)).note rfl

variable [HasPriority E] {observer : Observer E P S} {p : Run E P S → Prop}

/-- **The ordinary half** leaves alone what the synthetic half has brought about. -/
theorem EndsWithin.harvestOrdinary (h : r.HasRenewed app s queue sends)
    (hquiet : ∀ reply ∈ r.transport.planned, reply.during = [])
    (hp : ∀ (ordinary : List (Batch E × Outcome)) (r' : Run E P S),
      s.Renewed app queue r'.service → r'.attempts.reverse =
        sends.map (Prod.mk Kind.synthetic) ++ ordinary.map (Prod.mk Kind.ordinary) → p r') :
    (r.harvestOrdinary app).EndsWithin observer 3 p := by
  have hlast : ∀ {r' : Run E P S}, r'.HasRenewed app s queue sends →
      r'.EndsWithin observer 1 p := fun hr => by
    obtain ⟨ordinary, hattempts⟩ := hr.attempts
    exact .last hr.stack (hp ordinary _ hr.service hattempts)
  have hasked := h.service.askEnabled app
  rw [Run.harvestOrdinary]
  generalize r.service.askEnabled app = result at hasked ⊢
  obtain ⟨enabled, s₁⟩ := result
  simp only at hasked ⊢
  split
  · exact (hlast (h.withService hasked.removeOrdinary)).mono (by decide)
  · have hprevious := s₁.swapOut_fst .ordinary app
    have hswapped := hasked.swapOut_ordinary
    generalize s₁.swapOut .ordinary app = result at hprevious hswapped ⊢
    obtain ⟨previous, s₂⟩ := result
    simp only at hprevious hswapped ⊢
    have hdone := h.withService hswapped
    split
    · exact (hlast hdone).mono (by decide)
    next old =>
      have hold : old ≠ s.pool.size := fun heq => hasked.apart (heq ▸ hprevious.symm)
      split
      · exact (hlast hdone).mono (by decide)
      · have hgauged : ((r.withService s₂).note (.gauged "events.harvest.limit"
            (s₂.reservoir old).capacity [appTag app])).HasRenewed app s queue sends :=
          hdone.note rfl
        rw [send_eq, (during_replyTo (by rwa [note_transport]) old).1]
        exact .within (hlast (HasRenewed.settleOrdinary (hgauged.attempt _ _ _) hold))

end Ordinary

/-! ### The drain -/

/-- **A drain in progress** in a service that was `s`, with a transport that was `t` when it began:
these batches wait, and these have been sent. -/
structure IsDraining (s : Service E) (t : Transport E P) (queue : List Ref)
    (sends : List (Batch E × Outcome)) (r : Run E P S) : Prop where
  stack : r.stack = [.steps []]
  service : r.service = { s with backlog := { s.backlog with queue := queue } }
  attempts : r.attempts.reverse = sends.map (Prod.mk Kind.synthetic)
  quiet : ∀ reply ∈ r.transport.planned, reply.during = []
  outcomes : ∀ later, t.outcomes (sends.map Prod.fst ++ later) =
    sends.map Prod.snd ++ r.transport.outcomes later

section Drain

variable {app : String} {s : Service E} {t : Transport E P} {queue : List Ref}
  {sends : List (Batch E × Outcome)} {r : Run E P S}

theorem IsDraining.note (h : r.IsDraining s t queue sends) {n : Note E} (hn : n.attempt? = none) :
    (r.note n).IsDraining s t queue sends where
  stack := (note_stack r n).trans h.stack
  service := (note_service r n).trans h.service
  attempts := by
    rw [attempts_note, hn]
    exact h.attempts
  quiet := by
    rw [note_transport]
    exact h.quiet
  outcomes := by
    rw [note_transport]
    exact h.outcomes

theorem IsDraining.withQueue (h : r.IsDraining s t queue sends) (queue' : List Ref) :
    (r.withService { r.service with
      backlog := { r.service.backlog with queue := queue' } }).IsDraining s t queue' sends where
  stack := h.stack
  service := by
    change { r.service with backlog := { r.service.backlog with queue := queue' } } = _
    rw [h.service]
  attempts := h.attempts
  quiet := h.quiet
  outcomes := h.outcomes

/-- **A batch is put back**, in front of what waits. -/
theorem IsDraining.requeue (h : r.IsDraining s t queue sends) (ref : Ref) :
    (r.requeue ref).IsDraining s t
      (ref :: if max s.backlog.capacity 1 < queue.length + 1 then queue.dropLast else queue)
      sends := by
  have hqueue : (r.service.backlog.requeue ref).2.queue =
      ref :: if max s.backlog.capacity 1 < queue.length + 1 then queue.dropLast else queue := by
    rw [Backlog.queue_requeue, h.service]
  have hbacklog : (r.service.backlog.requeue ref).2 =
      { r.service.backlog with queue := (r.service.backlog.requeue ref).2.queue } := by
    rw [Backlog.requeue]
    split <;> rfl
  have hback := h.withQueue (r.service.backlog.requeue ref).2.queue
  rw [← hbacklog, hqueue] at hback
  rw [Run.requeue]
  generalize r.service.backlog.requeue ref = result at hback ⊢
  obtain ⟨dropped, backlog⟩ := result
  cases dropped with
  | none => exact hback
  | some ref' => exact IsDraining.note (hback.note rfl) rfl

theorem IsDraining.batch (h : r.IsDraining s t queue sends) (ref : Ref) :
    r.service.batch ref = s.batch ref := by
  rw [h.service]
  rfl

/-- One more batch is handed over. -/
theorem IsDraining.attempt (h : r.IsDraining s t queue sends) (ref : Ref) :
    ({ r with transport := r.transportAfter ref }.note (.attempt .synthetic (r.service.batch ref)
      (r.replyTo ref).outcome)).IsDraining s t queue
        (sends ++ [(s.batch ref, (r.replyTo ref).outcome)]) where
  stack := (note_stack _ _).trans h.stack
  service := (note_service _ _).trans h.service
  attempts := by
    rw [attempts_note, List.map_append, ← h.attempts, h.batch]
    exact List.reverse_cons
  quiet := by
    rw [note_transport]
    exact (during_replyTo h.quiet ref).2
  outcomes later := by
    have houtcomes := h.outcomes (s.batch ref :: later)
    rw [note_transport, List.map_append, List.map_append, List.append_assoc, List.append_assoc,
      List.map_singleton, List.singleton_append, houtcomes, ← h.batch]
    rfl

/-- A harvested reservoir is queued, if there is room. -/
theorem IsDraining.enqueue (h : r.IsDraining s t queue sends) (app : String) (ref : Ref) :
    (r.enqueue app ref).IsDraining s t
      (if queue.length < s.backlog.capacity then queue ++ [ref] else queue) sends := by
  have hpush : r.service.backlog.push ref = if s.backlog.capacity ≤ queue.length then
      .error (.full s.backlog.capacity)
    else .ok { r.service.backlog with queue := queue ++ [ref] } := by
    rw [h.service]
    rfl
  rw [Run.enqueue, hpush]
  by_cases hroom : queue.length < s.backlog.capacity
  · rw [if_neg (Nat.not_le.2 hroom), if_pos hroom]
    exact h.withQueue _
  · rw [if_pos (Nat.not_lt.1 hroom), if_neg hroom]
    exact IsDraining.note (h.note rfl) rfl

section Ends

variable [HasPriority E] {observer : Observer E P S} {p : Run E P S → Prop} {n budget : Nat}

/-- **A send** inside which nothing runs. -/
theorem EndsWithin.send_synthetic (h : r.IsDraining s t queue sends) {ref : Ref}
    {settle : Flight E → Frame E P}
    (hp : ∀ (outcome : Outcome) (r' : Run E P S),
      r'.IsDraining s t queue (sends ++ [(s.batch ref, outcome)]) →
      (r'.resume observer (settle ⟨ref, s.batch ref, outcome⟩)).EndsWithin observer n p) :
    (r.send .synthetic ref settle).EndsWithin observer (n + 2) p := by
  have hsent := h.attempt ref
  have hbatch : r.service.batch ref = s.batch ref := by
    rw [h.service]
    rfl
  rw [send_eq, (during_replyTo h.quiet _).1]
  rw [hbatch] at hsent ⊢
  exact .within (hp _ _ hsent)

/-- The drain is over. -/
theorem EndsWithin.endDrain (h : r.IsDraining s t queue sends)
    (hp : ∀ r' : Run E P S, r'.IsDraining s t queue sends →
      (r'.harvestOrdinary app).EndsWithin observer n p) :
    (r.endDrain app).EndsWithin observer (n + 1) p :=
  .push (hp _ (h.note rfl))

/-- **The drain**, batch by batch: it ends with the budget, the batches, or the first failure. -/
theorem EndsWithin.drain (h : r.IsDraining s t queue sends)
    (hp : ∀ (sent : List (Batch E × Outcome)) (left : List Ref) (r' : Run E P S),
      Service.Drained s.batch s.backlog.capacity budget queue sent left →
      r'.IsDraining s t left (sends ++ sent) →
      (r'.harvestOrdinary app).EndsWithin observer n p) :
    (r.drain app budget).EndsWithin observer (3 * queue.length + (n + 1)) p := by
  induction budget generalizing queue sends r with
  | zero =>
    have hdrained : Service.Drained s.batch s.backlog.capacity 0 queue [] queue := .unbroken
    exact (EndsWithin.endDrain h fun r' hr => hp [] queue r' hdrained
      (by rwa [List.append_nil])).mono (Nat.le_add_left _ _)
  | succ budget ih =>
    have hover : ∀ (sent : List (Batch E × Outcome)) (left : List Ref) (r' : Run E P S),
        Service.Drained s.batch s.backlog.capacity (budget + 1) queue sent left →
        r'.IsDraining s t left (sends ++ sent) → (r'.endDrain app).EndsWithin observer (n + 1) p :=
      fun sent left r' hdrained hr => .endDrain hr fun r'' => hp sent left r'' hdrained
    have hqueue : r.service.backlog.queue = queue := by rw [h.service]
    unfold Run.drain Backlog.pop?
    rw [hqueue]
    cases queue with
    | nil =>
      refine (hover [] [] r .unbroken ?_).mono (Nat.le_add_left _ _)
      rwa [List.append_nil]
    | cons ref rest =>
      have hfirst : ref :: rest = [] ++ ref :: rest := rfl
      have hcount : 3 * (ref :: rest).length + (n + 1) = 3 * rest.length + (n + 1) + 1 + 2 := by
        rw [List.length_cons]
        omega
      rw [hcount]
      refine .send_synthetic (h.withQueue rest) fun outcome r' hr => ?_
      have hsettled := hr.note (n := .settled .synthetic (s.batch ref) outcome) rfl
      change EndsWithin observer _ p (Run.settleSynthetic _ _ _ _)
      rw [Run.settleSynthetic]
      cases outcome with
      | none =>
        -- a delivered batch is the first of what the rest of the drain sends
        have hmore : ∀ (sent : List (Batch E × Outcome)) (left : List Ref) (r' : Run E P S),
            Service.Drained s.batch s.backlog.capacity budget rest sent left →
            r'.IsDraining s t left (sends ++ [(s.batch ref, none)] ++ sent) →
            (r'.harvestOrdinary app).EndsWithin observer n p := fun sent left r' hdrained hr => by
          refine hp _ left r' (hdrained.cons ref) ?_
          rwa [← List.append_cons] at hr
        exact .push (ih (hsettled.note rfl) hmore)
      | some error =>
        simp only
        split
        next htransient =>
          refine (hover _ _ _ (.putBack hfirst (Nat.succ_pos budget) htransient)
            (IsDraining.requeue ((hsettled.note rfl).note rfl) ref)).mono ?_
          omega
        next hlasting =>
          refine (hover _ _ _ (.turnedDown hfirst (Nat.succ_pos budget)
            (eq_false_of_ne_true hlasting)) ((hsettled.note rfl).note rfl)).mono ?_
          omega

end Ends

theorem IsDraining.hasRenewed (h : r.IsDraining (s.swapOut .synthetic app).2 t queue sends)
    (hs : s.IsInPool) : r.HasRenewed app s queue sends where
  stack := h.stack
  service := h.service ▸ (hs.renewed app).withQueue queue
  attempts := ⟨[], by rw [h.attempts, List.map_nil, List.append_nil]⟩

/-- **What a harvest comes to** in a service that was `s`, with a transport that was `t`: the live
synthetic reservoir of the application is a new and empty one; first the batches of a drain have
been sent, each for the application it comes from, and then only ordinary ones. -/
structure HasHarvested (app : String) (s : Service E) (t : Transport E P) (r : Run E P S) :
    Prop where
  live : r.service.liveRef? .synthetic app = some s.pool.size
  fresh : r.service.reservoir s.pool.size =
    s.freshReservoir .synthetic app (s.liveTries .synthetic app)
  sends : ∃ sends ordinary : List (Batch E × Outcome),
    r.attempts.reverse =
      sends.map (Prod.mk Kind.synthetic) ++ ordinary.map (Prod.mk Kind.ordinary) ∧
    sends.map Prod.snd = t.outcomes (sends.map Prod.fst) ∧
    Service.Drained s.batch s.backlog.capacity
      s.settings.harvest.synthetics.maxBatchesPerHarvest (s.waiting app) sends
      r.service.backlog.queue

variable [HasPriority E] {observer : Observer E P S}

/-- The drain of what waits after the swap, and the ordinary half. -/
theorem EndsWithin.drain_waiting (hs : s.IsInPool)
    (h : r.IsDraining (s.swapOut .synthetic app).2 t (s.waiting app) []) :
    (r.drain app s.settings.harvest.synthetics.maxBatchesPerHarvest).EndsWithin observer
      (3 * (s.waiting app).length + 4) (HasHarvested app s t) := by
  have hbatch : ∀ ref ∈ s.waiting app, (s.swapOut .synthetic app).2.batch ref = s.batch ref :=
    fun ref hm => Service.batch_swapOut (hs.waiting app ref hm) .synthetic app
  refine .drain h fun sends left r' hdrained hr => ?_
  refine .harvestOrdinary (hr.hasRenewed hs) hr.quiet fun ordinary r'' hrenewed hattempts => ?_
  refine ⟨hrenewed.live, hrenewed.fresh, sends, ordinary, hattempts, ?_, ?_⟩
  · have houtcomes := hr.outcomes []
    rw [Transport.outcomes, List.append_nil, List.append_nil] at houtcomes
    exact houtcomes.symm
  · rw [hrenewed.queue, ← s.backlog_swapOut .synthetic app]
    exact hdrained.congr hbatch

/-- **A harvest**: the swap, what is queued, the drain, and the ordinary half. -/
theorem EndsWithin.harvest (hs : s.IsInPool) (hactive : s.isActive)
    (h : r.IsDraining s t s.backlog.queue []) (app : String) :
    (r.harvest app).EndsWithin observer (3 * (s.waiting app).length + 5)
      (HasHarvested app s t) := by
  have hservice : (r.withAnswer .none).service = s := h.service
  have hsettings := (s.sameSettings_swapOut .synthetic app).settings
  have hbacklog := s.backlog_swapOut .synthetic app
  have hprevious := s.swapOut_fst .synthetic app
  have hdrain : ∀ r' : Run E P S,
      r'.IsDraining (s.swapOut .synthetic app).2 t (s.waiting app) [] →
      (r'.push (.drain app
        r'.service.settings.harvest.synthetics.maxBatchesPerHarvest)).EndsWithin observer
          (3 * (s.waiting app).length + 5) (HasHarvested app s t) := fun r' hr => by
    have hlimit : r'.service.settings = s.settings := by
      rw [hr.service]
      exact hsettings
    rw [hlimit]
    exact .push (.drain_waiting hs hr)
  have hswapped : ((r.withAnswer .none).withService (s.swapOut .synthetic app).2).IsDraining
      (s.swapOut .synthetic app).2 t s.backlog.queue [] := by
    refine ⟨h.stack, ?_, h.attempts, h.quiet, h.outcomes⟩
    rw [← hbacklog]
    rfl
  rw [Run.harvest]
  simp only [hservice]
  rw [if_neg (by rw [hactive]; exact Bool.false_ne_true)]
  rw [hprevious]
  refine hdrain _ ?_
  rw [Service.waiting]
  cases hlive : s.liveRef? .synthetic app with
  | none => exact hswapped
  | some ref =>
    have hqueued := hswapped.enqueue app ref
    rw [hbacklog] at hqueued
    simp only [Service.isEmpty_swapOut hs hlive]
    by_cases hempty : (s.reservoir ref).isEmpty
    · rw [if_pos hempty, if_neg fun hcon => hcon.1 hempty]
      exact hswapped
    · rw [if_neg hempty]
      simp only [hempty, Bool.false_eq_true, not_false_eq_true, true_and]
      exact hqueued

end Drain

/-- **The synthetic half of a harvest.** Whatever the service, what waits there, and the outcomes
of the sends: a harvest of any application puts a new reservoir in the place of the live synthetic
one, queues the old one if it holds anything and there is room for it, and sends the batches that
wait in their order, up to the first failure and within the budget. Afterwards there waits what
has not been sent; a batch that failed in passing comes first, and the newest of the others is gone
if there were too many. -/
theorem harvest_synthetic [HasPriority E] {s : Service E} (hs : s.IsInPool) (hactive : s.isActive)
    {transport : Transport E Empty} (hquiet : ∀ reply ∈ transport.planned, reply.during = [])
    (random : Random.Source) (app : String) :
    let r := (calling s transport random).perform (.idle E) (.harvest app)
    r.stack = [] ∧ r.HasHarvested app s transport := by
  have hdraining : ((calling s transport random).push (.steps [])).IsDraining s transport
      s.backlog.queue [] :=
    ⟨rfl, rfl, rfl, hquiet, fun _ => rfl⟩
  have hends : (((calling s transport random).push (.steps [])).start (.idle E)
      (.harvest app)).EndsWithin (.idle E) (3 * (s.waiting app).length + 5)
        (HasHarvested app s transport) :=
    .harvest hs hactive hdraining app
  refine hends.perform ?_
  have hlength := s.length_waiting_le app
  have hweight : ((calling s transport random).push (.steps [.harvest app])).weight =
      1 + (harvestWeight + 0) + 0 + transport.weight + batchWeight * s.backlog.size := rfl
  rw [hweight, harvestWeight, batchWeight]
  omega

open Simulation (Event) in
/-- A service in which three batches wait, although there is room for one only from now on. Another
event has been recorded since. -/
def crowdedService : Service Event :=
  ((fresh {} { habit := .always (some (.transient "down")) }
    [.record "a" (visit "first" 0.5) [] [], .harvest "a",
      .record "b" (visit "second" 0.5) [] [], .harvest "b",
      .record "c" (visit "third" 0.5) [] [], .harvest "c",
      .change (.reloaded { harvest := { synthetics := { maxPendingBatches := 1 } } }),
      .record "a" (visit "fourth" 0.5) [] []] (.ofSeed 0)).advance (.idle _) 100).service

open Simulation (Event) in
/-- A transport that delivers one batch, and fails in passing with the next. -/
def failingSecond : Transport Event Empty :=
  { planned := [⟨none, []⟩, ⟨some (.transient "down"), []⟩] }

open Simulation (Event) in
/-- The batch that fails there is put back, and the last one is dropped for it; the new one has
not even been queued. -/
theorem hasHarvested_crowdedService :
    let r := (calling crowdedService failingSecond (.ofSeed 0)).perform (.idle Event) (.harvest "a")
    r.HasHarvested "a" crowdedService failingSecond ∧
      crowdedService.backlog.queue.map (crowdedService.batch · |>.app) = ["a", "b", "c"] ∧
      (crowdedService.waiting "a").map (crowdedService.batch · |>.app) = ["a", "b", "c"] ∧
      r.attempts.reverse.map (fun sent => (sent.2.1.app, sent.2.2)) =
        [("a", none), ("b", some (.transient "down"))] ∧
      r.service.backlog.queue.map (r.service.batch · |>.app) = ["b"] := by
  have hpool : crowdedService.IsInPool := Service.IsReached.isInPool ⟨_, _, _, _, 100, rfl⟩
  have hquiet : ∀ reply ∈ failingSecond.planned, reply.during = [] := by simp [failingSecond]
  have hharvest := harvest_synthetic hpool (by decide +kernel) hquiet (.ofSeed 0) "a"
  exact ⟨hharvest.2, by decide +kernel, by decide +kernel, by decide +kernel, by decide +kernel⟩

end Run

end Telemetry.Events
