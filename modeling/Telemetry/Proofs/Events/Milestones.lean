import Telemetry.Proofs.Events.Precedence

/-!
# What becomes of the batches of a run

Seen from the batches, few steps of a run matter. The ones that do are its *milestones*: a
synthetic reservoir is harvested, or the outcome of a send comes back (`Run.milestone?`, read
off the frame on top of the stack). Between them, at most a batch is handed to the transport.

`Run.Passes` says what each step does to the *traffic*: the queue of the backlog, the sends in
progress, the batches delivered, and the counters.

| milestone | queue | sends | counters |
|---|---|---|---|
| – (`launched`) | the front goes, if synthetic | one more | |
| harvested (`queued`) | one more at the end | | |
| harvested (`refused`) | | | dropped |
| answered (`landed`) | | the latest ends | sent, seen |
| answered (`requeued`) | one more in front | the latest ends | retried |
| answered (`overflowed`) | one more in front, the last goes | the latest ends | retried, dropped |
| answered (`failed`) | | the latest ends | retried or discarded |

The rest of a run idles (`Run.Idles`). The theorem is `Run.Sound.passes_step`: **every step passes
its milestone like this**.
-/

namespace Telemetry.Events

open Sampling (HasPriority)

variable {E P S : Type}

/-! ### What counts -/

/-- Something added to a counter: its name, its tags, and how much. -/
abbrev Count := String × List (String × String) × Int

/-- What a note adds to a counter. -/
def Note.count? : Note E → Option Count
  | .sample ⟨name, .count n, tags⟩ => some (name, tags, n)
  | _ => none

/-- A batch that could not be queued, or not be kept in the queue. -/
def droppedCount (app : String) : Count := ("events.synthetics.dropped", [Run.appTag app], 1)

/-- A batch whose send has failed. -/
def failedCount (kept : Bool) (app : String) (kind : Kind) : Count :=
  (if kept then "events.harvest.retried" else "events.harvest.discarded", Run.kindTags app kind, 1)

/-- The counters that tell of a delivery, latest first. -/
def landedCounts (batch : Batch E) : Kind → List Count
  | .synthetic => [("events.synthetics.sent", [Run.appTag batch.app], batch.events.length)]
  | .ordinary =>
    [("events.transaction.seen", [Run.appTag batch.app], batch.tries),
      ("events.transaction.sent", [Run.appTag batch.app], batch.events.length)]

/-- The send that a frame waits for, with its kind. -/
def Frame.send? : Frame E P → Option (Kind × Flight E)
  | .settleSynthetic _ _ flight => some (.synthetic, flight)
  | .settleOrdinary _ flight => some (.ordinary, flight)
  | _ => none

/-- The configuration says nothing about counters when it changes. -/
theorem Service.count?_change (s : Service E) (c : ConfigChange) :
    ∀ n ∈ (s.change c).2, n.count? = none := by
  intro n hn
  cases c <;> (obtain rfl := List.mem_singleton.1 hn; rfl)

theorem Service.count?_setCapacity (s : Service E) (k : Nat) :
    ∀ n ∈ (s.setCapacity k).2, n.count? = none := by
  intro n hn
  unfold setCapacity at hn
  split at hn
  · exact absurd hn List.not_mem_nil
  · obtain rfl := List.mem_singleton.1 hn
    rfl

theorem Service.count?_shutDown (s : Service E) : ∀ n ∈ s.shutDown.2, n.count? = none := by
  intro n hn
  unfold shutDown at hn
  split at hn
  · exact absurd hn List.not_mem_nil
  · obtain rfl := List.mem_singleton.1 hn
    rfl

/-! ### Milestones -/

/-- Something that happens to a batch. -/
inductive Milestone (E : Type)
  /-- A synthetic reservoir that holds something has been swapped out. -/
  | harvested (app : String) (ref : Ref)
  /-- The outcome of a send has come back; the batch is kept for another attempt, or not. -/
  | answered (kind : Kind) (flight : Flight E) (kept : Bool)

/-- The synthetic reservoir that a harvest of an application swaps out, if it holds anything. -/
def Service.harvested? (s : Service E) (app : String) : Option Ref :=
  if s.isActive then (s.liveRef? .synthetic app).filter fun ref => !(s.reservoir ref).isEmpty
  else none

theorem Service.live_of_harvested? {s : Service E} {app : String} {ref : Ref}
    (h : s.harvested? app = some ref) :
    s.liveRef? .synthetic app = some ref ∧ (s.reservoir ref).isEmpty = false := by
  rw [harvested?] at h
  split at h
  · obtain ⟨hlive, hheld⟩ := Option.filter_eq_some_iff.1 h
    exact ⟨hlive, by simpa using hheld⟩
  · nomatch h

/-- The milestone that a frame passes when it is resumed. -/
def Frame.milestone? (s : Service E) : Frame E P → Option (Milestone E)
  | .steps (.harvest app :: _) => (s.harvested? app).map (.harvested app)
  | .settleSynthetic _ _ flight =>
    some (.answered .synthetic flight (flight.outcome.any (·.isTransient)))
  | .settleOrdinary _ flight =>
    some (.answered .ordinary flight
      (isKept s.settings.harvest.unexpectedErrors flight.outcome))
  | _ => none

/-- The reservoir is in the pool and takes no more events. -/
def Service.HasSealed (s : Service E) (ref : Ref) : Prop :=
  ref < s.pool.size ∧ (s.reservoir ref).isSealed

theorem Service.HasSealed.precedes {s s' : Service E} {ref : Ref} (h : s.HasSealed ref)
    (hp : s.Precedes s') : s'.HasSealed ref :=
  ⟨Nat.lt_of_lt_of_le h.1 hp.grows.size, hp.grows.isSealed ref h.1 h.2⟩

/-- What a send keeps out of the queue while it is in progress: only synthetic reservoirs wait
there. -/
def refsOf : Kind → Ref → List Ref
  | .synthetic, ref => [ref]
  | .ordinary, _ => []

theorem Transport.mem_planned_of_send {t : Transport E P} {batch : Batch E} {reply : Reply E P}
    (h : reply ∈ (t.send batch).2.planned) : reply ∈ t.planned := by
  rw [Transport.send] at h
  split at h
  next first rest hplanned =>
    rw [hplanned]
    exact List.mem_cons_of_mem first h
  next => exact h

namespace Run

/-- The sends in progress, latest first. -/
def sends (r : Run E P S) : List (Kind × Flight E) := r.stack.filterMap Frame.send?

/-- What has been added to counters so far, latest first. -/
def counts (r : Run E P S) : List Count := r.notes.filterMap Note.count?

/-- The milestone that the next step of a run passes. -/
def milestone? (r : Run E P S) : Option (Milestone E) :=
  r.stack.head?.bind (Frame.milestone? r.service)

/-- What is harvested next is live until then. -/
theorem live_of_milestone? {r : Run E P S} {app : String} {ref : Ref}
    (h : r.milestone? = some (.harvested app ref)) :
    r.service.liveRef? .synthetic app = some ref := by
  obtain ⟨f, -, hf⟩ := Option.bind_eq_some_iff.1 h
  unfold Frame.milestone? at hf
  split at hf
  next app' rest =>
    obtain ⟨ref', hharvested, heq⟩ := Option.map_eq_some_iff.1 hf
    obtain ⟨rfl, rfl⟩ := Milestone.harvested.inj heq
    exact (Service.live_of_harvested? hharvested).1
  all_goals nomatch hf

/-- The milestones among a number of steps, earliest first. -/
def milestones [HasPriority E] (observer : Observer E P S) :
    Nat → Run E P S → List (Milestone E)
  | 0, _ => []
  | n + 1, r =>
    match r.step observer with
    | none => []
    | some r' => r.milestone?.toList ++ milestones observer n r'

section Milestones

variable [HasPriority E] {observer : Observer E P S} {r r' : Run E P S}

theorem milestones_succ_of_none (h : r.step observer = none) (n : Nat) :
    r.milestones observer (n + 1) = [] := by
  rw [milestones, h]

theorem milestones_succ_of_some (h : r.step observer = some r') (n : Nat) :
    r.milestones observer (n + 1) = r.milestone?.toList ++ r'.milestones observer n := by
  rw [milestones, h]

end Milestones

/-! ### What a part of a step does to the traffic -/

section Note

variable (r : Run E P S) (n : Note E)

@[simp] theorem note_inBackground : (r.note n).inBackground = r.inBackground := by
  rw [note]
  split <;> rfl

@[simp] theorem log_inBackground (severity : Log.Severity) (source message : String)
    (fields : List (String × Log.FieldValue)) :
    (r.log severity source message fields).inBackground = r.inBackground := r.note_inBackground _

@[simp] theorem logUnsent_inBackground (app message : String) (error : TransmitError) :
    (r.logUnsent app message error).inBackground = r.inBackground := r.log_inBackground _ _ _ _

@[simp] theorem requeue_inBackground (ref : Ref) :
    (r.requeue ref).inBackground = r.inBackground := by
  rw [requeue]
  generalize r.service.backlog.requeue ref = result
  obtain ⟨_ | last, backlog⟩ := result
  · rfl
  · simp only [note_inBackground, log_inBackground]
    rfl

/-- In sight, a note counts for what it is. -/
theorem counts_note (hseen : r.inBackground = false) :
    (r.note n).counts = n.count?.toList ++ r.counts := by
  rw [note, hseen, Bool.false_and, if_neg Bool.false_ne_true, counts, List.filterMap_cons]
  cases n.count? <;> rfl

theorem counts_note_of_none (h : n.count? = none) : (r.note n).counts = r.counts := by
  rw [counts, r.filterMap_note n fun _ => h, h]
  rfl

@[simp] theorem sends_note : (r.note n).sends = r.sends := by rw [sends, sends, note_stack]

end Note

/-- **What a part of a step has done**: the queue and the sends in progress now, and what was
delivered and counted on the way. Nothing is counted out of sight. -/
structure Traffic (r r' : Run E P S) (queue : List Ref) (sends : List (Kind × Flight E))
    (delivered : List (Kind × Batch E)) (counts : List Count) : Prop where
  queue : r'.service.backlog.queue = queue
  sends : r'.sends = sends
  delivered : r'.delivered = delivered ++ r.delivered
  counts : r.inBackground = false → r'.counts = counts ++ r.counts
  planned : ∀ reply ∈ r'.transport.planned, reply ∈ r.transport.planned

section Traffic

variable {r r' : Run E P S} {queue : List Ref} {sends : List (Kind × Flight E)}
  {delivered : List (Kind × Batch E)} {counts : List Count}

theorem Traffic.note (h : r.Traffic r' queue sends delivered counts)
    (hseen : r'.inBackground = r.inBackground) (n : Note E) :
    r.Traffic (r'.note n) queue sends (n.delivered?.toList ++ delivered)
      (n.count?.toList ++ counts) where
  queue := by rw [note_service, h.queue]
  sends := by rw [sends_note, h.sends]
  delivered := by rw [delivered_note, h.delivered, List.append_assoc]
  counts hshown := by rw [counts_note _ _ (hseen.trans hshown), h.counts hshown, List.append_assoc]
  planned reply hm := h.planned reply (by rwa [note_transport] at hm)

theorem Traffic.push (h : r.Traffic r' queue sends delivered counts) {f : Frame E P}
    (hf : f.send? = none) : r.Traffic (r'.push f) queue sends delivered counts :=
  ⟨h.queue, (List.filterMap_cons_none hf).trans h.sends, h.delivered, h.counts, h.planned⟩

theorem Traffic.withService (h : r.Traffic r' queue sends delivered counts) (s : Service E) :
    r.Traffic (r'.withService s) s.backlog.queue sends delivered counts :=
  ⟨rfl, h.sends, h.delivered, h.counts, h.planned⟩

/-- What a step does to the traffic does not depend on the stack before. -/
theorem Traffic.restack {stack : List (Frame E P)}
    (h : Traffic { r with stack := stack } r' queue sends delivered counts) :
    r.Traffic r' queue sends delivered counts :=
  ⟨h.queue, h.sends, h.delivered, h.counts, h.planned⟩

end Traffic

/-- Nothing happens to the traffic. -/
structure Idles (r r' : Run E P S) : Prop where
  queue : r'.service.backlog.queue = r.service.backlog.queue
  sends : r'.sends = r.sends
  delivered : r'.delivered = r.delivered
  counts : r'.counts = r.counts
  transport : r'.transport = r.transport

section Idles

variable {r r' r'' : Run E P S}

theorem Idles.refl (r : Run E P S) : r.Idles r := ⟨rfl, rfl, rfl, rfl, rfl⟩

theorem Idles.trans (h : r.Idles r') (h' : r'.Idles r'') : r.Idles r'' :=
  ⟨h'.queue.trans h.queue, h'.sends.trans h.sends, h'.delivered.trans h.delivered,
    h'.counts.trans h.counts, h'.transport.trans h.transport⟩

theorem Idles.traffic (h : r.Idles r') : r.Traffic r' r.service.backlog.queue r.sends [] [] where
  queue := h.queue
  sends := h.sends
  delivered := h.delivered
  counts _ := h.counts
  planned reply hm := by rwa [h.transport] at hm

theorem Idles.note (h : r.Idles r') {n : Note E} (hdelivered : n.delivered? = none)
    (hcount : n.count? = none) : r.Idles (r'.note n) where
  queue := by rw [note_service, h.queue]
  sends := by rw [sends_note, h.sends]
  delivered := by rw [delivered_note, hdelivered, h.delivered]; rfl
  counts := by rw [counts_note_of_none _ _ hcount, h.counts]
  transport := by rw [note_transport, h.transport]

theorem Idles.log (h : r.Idles r') (severity : Log.Severity) (source message : String)
    (fields : List (String × Log.FieldValue)) :
    r.Idles (r'.log severity source message fields) :=
  h.note rfl rfl

theorem Idles.noteAll (h : r.Idles r') {ns : List (Note E)} (hquiet : ∀ n ∈ ns, n.IsQuiet)
    (hcount : ∀ n ∈ ns, n.count? = none) : r.Idles (r'.noteAll ns) := by
  induction ns generalizing r' with
  | nil => exact h
  | cons n ns ih =>
    exact ih (h.note (hquiet n List.mem_cons_self).delivered (hcount n List.mem_cons_self))
      (fun m hm => hquiet m (List.mem_cons_of_mem n hm))
      fun m hm => hcount m (List.mem_cons_of_mem n hm)

theorem Idles.withService (h : r.Idles r') {s : Service E}
    (hqueue : s.backlog.queue = r'.service.backlog.queue) : r.Idles (r'.withService s) :=
  ⟨hqueue.trans h.queue, h.sends, h.delivered, h.counts, h.transport⟩

theorem Idles.withAnswer (h : r.Idles r') (a : Answer) : r.Idles (r'.withAnswer a) :=
  ⟨h.queue, h.sends, h.delivered, h.counts, h.transport⟩

theorem Idles.finish (h : r.Idles r') (job : Job E P) : r.Idles (r'.finish job) := h.withAnswer _

theorem Idles.push (h : r.Idles r') {f : Frame E P} (hf : f.send? = none) :
    r.Idles (r'.push f) :=
  ⟨h.queue, (List.filterMap_cons_none hf).trans h.sends, h.delivered, h.counts, h.transport⟩

theorem Idles.within (h : r.Idles r') (steps : List (Step E P)) {f : Frame E P}
    (hf : f.send? = none) : r.Idles (r'.within steps f) :=
  (h.push hf).push rfl

end Idles

/-! ### What a step does to the traffic -/

/-- **What a step does to the traffic** of a run in which the given sends are in progress, when
it passes the given milestone. -/
inductive Passes (r : Run E P S) (sends : List (Kind × Flight E)) (r' : Run E P S) :
    Option (Milestone E) → Prop
  | idle (h : r.Traffic r' r.service.backlog.queue sends [] []) : Passes r sends r' none
  | launched {kind : Kind} {flight : Flight E} {queue : List Ref} {f : Frame E P}
      {below : List (Frame E P)} (hf : f.send? = some (kind, flight))
      (hqueue : r.service.backlog.queue = refsOf kind flight.ref ++ queue)
      (hstack : r'.stack = .steps (r.transport.send flight.batch).1.during :: f :: below)
      (h : r.Traffic r' queue ((kind, flight) :: sends) [] []) : Passes r sends r' none
  | queued {app : String} {ref : Ref} (hsealed : r'.service.HasSealed ref)
      (hroom : r.service.backlog.size < r.service.backlog.capacity)
      (h : r.Traffic r' (r.service.backlog.queue ++ [ref]) sends [] []) :
      Passes r sends r' (some (.harvested app ref))
  | refused {app : String} {ref : Ref} (hsealed : r'.service.HasSealed ref)
      (h : r.Traffic r' r.service.backlog.queue sends [] [droppedCount app]) :
      Passes r sends r' (some (.harvested app ref))
  | landed {kind : Kind} {flight : Flight E} {rest : List (Kind × Flight E)}
      (hsends : sends = (kind, flight) :: rest) (hout : flight.outcome = none)
      (h : r.Traffic r' r.service.backlog.queue rest [(kind, flight.batch)]
        (landedCounts flight.batch kind)) :
      Passes r sends r' (some (.answered kind flight false))
  | requeued {flight : Flight E} {rest : List (Kind × Flight E)}
      (hsends : sends = (.synthetic, flight) :: rest) (hout : flight.outcome ≠ none)
      (hroom : r.service.backlog.size < max r.service.backlog.capacity 1)
      (h : r.Traffic r' (flight.ref :: r.service.backlog.queue) rest []
        [failedCount true flight.batch.app .synthetic]) :
      Passes r sends r' (some (.answered .synthetic flight true))
  | overflowed {flight : Flight E} {rest : List (Kind × Flight E)} {queue : List Ref} {last : Ref}
      (hsends : sends = (.synthetic, flight) :: rest) (hout : flight.outcome ≠ none)
      (hlast : flight.ref :: r.service.backlog.queue = queue ++ [last])
      (h : r.Traffic r' queue rest []
        [droppedCount (r.service.reservoir last).app,
          failedCount true flight.batch.app .synthetic]) :
      Passes r sends r' (some (.answered .synthetic flight true))
  | failed {kind : Kind} {flight : Flight E} {rest : List (Kind × Flight E)} {kept : Bool}
      (hsends : sends = (kind, flight) :: rest) (hout : flight.outcome ≠ none)
      (hkept : kind = .synthetic → kept = false)
      (h : r.Traffic r' r.service.backlog.queue rest []
        [failedCount kept flight.batch.app kind]) :
      Passes r sends r' (some (.answered kind flight kept))

section Passes

variable {r r' : Run E P S}

theorem Idles.passes (h : r.Idles r') : r.Passes r.sends r' none := .idle h.traffic

theorem Passes.restack {stack : List (Frame E P)} {sends : List (Kind × Flight E)}
    {milestone : Option (Milestone E)}
    (h : Passes { r with stack := stack } sends r' milestone) : r.Passes sends r' milestone := by
  cases h with
  | idle h => exact .idle h.restack
  | launched hf hqueue hstack h => exact .launched hf hqueue hstack h.restack
  | queued hsealed hroom h => exact .queued hsealed hroom h.restack
  | refused hsealed h => exact .refused hsealed h.restack
  | landed hsends hout h => exact .landed hsends hout h.restack
  | requeued hsends hout hroom h => exact .requeued hsends hout hroom h.restack
  | overflowed hsends hout hlast h => exact .overflowed hsends hout hlast h.restack
  | failed hsends hout hkept h => exact .failed hsends hout hkept h.restack

end Passes

/-! ### Recording -/

section Record

variable [HasPriority E]

theorem idles_offerTo (r : Run E P S) (kind : Kind) (app : String) (job : Job E P) (ref : Ref) :
    r.Idles (r.offerTo kind app job ref) := by
  have hoffered : r.Idles (r.withService
      (r.service.offer ref (HasPriority.priority job.work.event) job.work.event).2) :=
    (Idles.refl r).withService rfl
  rw [offerTo_eq]
  generalize r.service.offer ref (HasPriority.priority job.work.event) job.work.event = result
    at hoffered ⊢
  obtain ⟨decision, s⟩ := result
  simp only at hoffered ⊢
  cases decision with
  | accepted =>
    cases kind with
    | ordinary => exact hoffered.finish job
    | synthetic => exact (hoffered.log _ _ _ _).finish job
  | rejected _ =>
    cases kind with
    | ordinary => exact hoffered.finish job
    | synthetic => exact hoffered.push rfl
  | closed _ => exact hoffered.push rfl

theorem idles_submit (r : Run E P S) (kind : Kind) (app : String) (job : Job E P) (ref : Ref) :
    r.Idles (r.submit kind app job ref) := by
  rw [submit]
  split
  · exact (Idles.refl r).within _ rfl
  · exact r.idles_offerTo kind app job ref

theorem idles_compete (r : Run E P S) (kind : Kind) (app : String) (job : Job E P) :
    r.Idles (r.compete kind app job) := by
  have hqueue := congrArg Backlog.queue (r.service.backlog_getOrCreate kind app)
  have hgot := (Idles.refl r).withService hqueue
  rw [compete]
  generalize r.service.getOrCreate kind app = result at hgot ⊢
  obtain ⟨ref, s⟩ := result
  have hsubmitted := hgot.trans ((r.withService s).idles_submit kind app job ref)
  have hcounted : r.Idles ((r.withService s).withService (s.countTry ref).2) :=
    hgot.withService rfl
  cases kind with
  | synthetic => exact hsubmitted
  | ordinary =>
    simp only
    split
    · split
      · exact hgot.within _ rfl
      · exact hsubmitted
    · split
      · exact hcounted.finish job
      · exact hcounted.push rfl

theorem idles_afterBuild (r : Run E P S) (app : String) (job : Job E P) (namesVersion : Nat)
    (goal : Option Ref) : r.Idles (r.afterBuild app job namesVersion goal) := by
  have hshared := (Idles.refl r).withService
    (r.service.sameReservoirs_internAt namesVersion job.work.name).queue
  cases goal with
  | some ref => exact hshared.trans (idles_submit _ .ordinary app { job with onBuild := none } ref)
  | none => exact hshared.trans (idles_compete _ .synthetic app { job with onBuild := none })

theorem idles_afterAsk (r : Run E P S) (app : String) (job : Job E P) :
    r.Idles (r.afterAsk app job) := by
  rw [afterAsk]
  split
  · exact (Idles.refl r).within _ rfl
  · exact r.idles_compete .ordinary app job

omit [HasPriority E] in
theorem idles_record (r : Run E P S) (app : String) (work : Work E)
    (onAsk onBuild : List (Step E P)) (onPriority : List (List (Step E P))) :
    r.Idles (r.record app work onAsk onBuild onPriority) := by
  have hasked := (Idles.refl r).withService (r.service.sameReservoirs_askEnabled app).queue
  rw [record]
  generalize r.service.askEnabled app = result at hasked ⊢
  obtain ⟨enabled, s⟩ := result
  simp only at hasked ⊢
  split
  · exact (Idles.refl r).finish _
  · split
    · have hremoved : r.Idles (r.withService (s.removeOrdinary app)) :=
        (Idles.refl r).withService hasked.queue
      exact hremoved.finish _
    · exact hasked.within onAsk rfl

end Record

theorem idles_drawPriority (r : Run E P S) (app : String) : r.Idles (r.drawPriority app) :=
  ⟨congrArg Backlog.queue (r.service.backlog_getOrCreate .ordinary app), rfl, rfl, rfl, rfl⟩

/-! ### Harvesting -/

/-- A harvest finds the synthetic reservoir as it was before it is sealed. -/
theorem isEmpty_swapOut {s : Service E} {aside : Multiset Ref} (hs : s.Sound aside) {ref : Ref}
    {app : String} (hlive : s.liveRef? .synthetic app = some ref) :
    ((s.swapOut .synthetic app).2.reservoir ref).isEmpty = (s.reservoir ref).isEmpty := by
  have hlt := (hs.live hlive).lt
  rw [Service.swapOut_snd_of_some hlive, Service.reservoir_modify_self
    (by rw [Service.size_install]; exact Nat.lt_succ_of_lt hlt), Service.reservoir_install hlt]
  rfl

theorem hasSealed_swapOut {s : Service E} {aside : Multiset Ref} (hs : s.Sound aside) {ref : Ref}
    {kind : Kind} {app : String} (hlive : s.liveRef? kind app = some ref) :
    (s.swapOut kind app).2.HasSealed ref := by
  have hsound := hs.swapOut kind app
  have hm : ref ∈ aside + ((s.liveRef? kind app).toList : Multiset Ref) := by
    rw [hlive]
    exact Multiset.mem_add.2 (.inr (Multiset.mem_coe.2 List.mem_cons_self))
  exact ⟨hsound.lt hm, hsound.isSealed hm⟩

/-- What a harvest does first, in an active service. -/
theorem harvest_of_isActive {r : Run E P S} (hactive : r.service.isActive) (app : String) :
    let swapped := (r.withAnswer .none).withService (r.service.swapOut .synthetic app).2
    let harvested := match r.service.liveRef? .synthetic app with
      | some ref =>
        if (swapped.service.reservoir ref).isEmpty then swapped else swapped.enqueue app ref
      | none => swapped
    r.harvest app = harvested.push
      (.drain app harvested.service.settings.harvest.synthetics.maxBatchesPerHarvest) := by
  rw [harvest]
  simp only [withAnswer, hactive, Bool.not_true, Bool.false_eq_true, if_false]
  rw [Service.swapOut_fst]
  rfl

/-- **A harvested reservoir** is queued, or dropped if the queue is full. -/
theorem passes_enqueue {r r' : Run E P S} (h : r.Idles r')
    (hbacklog : r'.service.backlog = r.service.backlog) (hseen : r'.inBackground = r.inBackground)
    {ref : Ref} (hsealed : r'.service.HasSealed ref) (app : String) (budget : Nat) :
    r.Passes r.sends ((r'.enqueue app ref).push (.drain app budget))
      (some (.harvested app ref)) := by
  have hlate := hsealed.precedes (r'.precedes_enqueue app ref)
  by_cases hfull : r.service.backlog.capacity ≤ r.service.backlog.size
  · have hpush : r'.enqueue app ref = (r'.log .warn harvestSource
        "some synthetic transaction events were discarded" [("app", .text app),
          ("error", .shown (BacklogError.full r.service.backlog.capacity).message)]).note
        (.counted "events.synthetics.dropped" 1 [appTag app]) := by
      rw [enqueue, hbacklog, Backlog.push, if_pos hfull]
    have hlogged := h.log .warn harvestSource "some synthetic transaction events were discarded"
      [("app", .text app), ("error",
        .shown (BacklogError.full r.service.backlog.capacity).message)]
    rw [hpush] at hlate ⊢
    exact .refused hlate ((hlogged.traffic.note ((note_inBackground _ _).trans hseen) _).push rfl)
  · have hpush : r'.enqueue app ref = r'.withService { r'.service with backlog :=
        { r.service.backlog with queue := r.service.backlog.queue ++ [ref] } } := by
      rw [enqueue, hbacklog, Backlog.push, if_neg hfull]
    rw [hpush] at hlate ⊢
    exact .queued hlate (Nat.not_le.1 hfull)
      ⟨rfl, h.sends, h.delivered, fun _ => h.counts, fun reply hm => h.transport ▸ hm⟩

/-- **A harvest** begins with the synthetic reservoir. -/
theorem passes_harvest {r : Run E P S} {hand : Multiset Ref} (hs : r.Sound hand) (app : String) :
    r.Passes r.sends (r.harvest app) ((r.service.harvested? app).map (.harvested app)) := by
  have hbacklog := r.service.backlog_swapOut .synthetic app
  have hstart : r.Idles (r.withAnswer .none) := (Idles.refl r).withAnswer .none
  have hswapped := hstart.withService (congrArg Backlog.queue hbacklog)
  rw [Service.harvested?]
  cases hactive : r.service.isActive with
  | false =>
    have hnothing : r.harvest app = r.withAnswer .none := by
      rw [harvest]
      simp only [withAnswer, hactive, Bool.not_false, if_true]
    rw [hnothing]
    exact hstart.passes
  | true =>
    have hharvest := harvest_of_isActive hactive app
    rw [if_pos rfl]
    cases hlive : r.service.liveRef? .synthetic app with
    | none =>
      simp only [hlive] at hharvest
      rw [hharvest]
      exact (hswapped.push rfl).passes
    | some ref =>
      have hempty : (((r.withAnswer .none).withService
          (r.service.swapOut .synthetic app).2).service.reservoir ref).isEmpty =
          (r.service.reservoir ref).isEmpty := isEmpty_swapOut hs.service hlive
      simp only [hlive, hempty] at hharvest
      cases hheld : (r.service.reservoir ref).isEmpty with
      | true =>
        rw [hheld, if_pos rfl] at hharvest
        rw [hharvest, Option.filter_some, hheld]
        exact (hswapped.push rfl).passes
      | false =>
        rw [hheld, if_neg Bool.false_ne_true] at hharvest
        rw [hharvest, Option.filter_some, hheld]
        exact passes_enqueue hswapped hbacklog rfl (hasSealed_swapOut hs.service hlive) app _

/-! ### Sending -/

/-- **A send** of a reservoir, which has been taken from the front of the queue if it waited
there. -/
theorem passes_send {r r' : Run E P S} {queue : List Ref} {kind : Kind} {ref : Ref}
    (h : r.Traffic r' queue r.sends [] []) (htransport : r'.transport = r.transport)
    (hseen : r'.inBackground = r.inBackground)
    (hqueue : r.service.backlog.queue = refsOf kind ref ++ queue) {settle : Flight E → Frame E P}
    (hsettle : ∀ flight, (settle flight).send? = some (kind, flight)) :
    r.Passes r.sends (r'.send kind ref settle) none := by
  have hattempt : r.Traffic ({ r' with transport := r'.transportAfter ref }.note
      (.attempt kind (r'.service.batch ref) (r'.replyTo ref).outcome)) queue r.sends [] [] := by
    have hnext : r.Traffic { r' with transport := r'.transportAfter ref } queue r.sends [] [] :=
      ⟨h.queue, h.sends, h.delivered, h.counts,
        fun reply hm => h.planned reply (Transport.mem_planned_of_send hm)⟩
    exact hnext.note hseen _
  have hflight := hsettle ⟨ref, r'.service.batch ref, (r'.replyTo ref).outcome⟩
  have hstack : (r'.send kind ref settle).stack =
      .steps (r.transport.send (r'.service.batch ref)).1.during ::
      settle ⟨ref, r'.service.batch ref, (r'.replyTo ref).outcome⟩ :: r'.stack := by
    rw [send_eq, stack_within, note_stack, ← htransport]
    rfl
  refine .launched hflight hqueue hstack
    ⟨hattempt.queue, ?_, hattempt.delivered, hattempt.counts, hattempt.planned⟩
  rw [sends, hstack, List.filterMap_cons_none rfl, List.filterMap_cons_some hflight]
  exact congrArg _ h.sends

theorem idles_endDrain (r : Run E P S) (app : String) : r.Idles (r.endDrain app) :=
  ((Idles.refl r).note rfl rfl).push rfl

theorem Traffic.endDrain {r r' : Run E P S} {queue : List Ref} {sends : List (Kind × Flight E)}
    {delivered : List (Kind × Batch E)} {counts : List Count}
    (h : r.Traffic r' queue sends delivered counts) (hseen : r'.inBackground = r.inBackground)
    (app : String) : r.Traffic (r'.endDrain app) queue sends delivered counts :=
  (h.note hseen _).push rfl

theorem passes_drain (r : Run E P S) (app : String) (budget : Nat) :
    r.Passes r.sends (r.drain app budget) none := by
  unfold drain Backlog.pop?
  cases budget with
  | zero => exact (r.idles_endDrain app).passes
  | succ budget =>
    cases hq : r.service.backlog.queue with
    | nil => exact (r.idles_endDrain app).passes
    | cons ref rest =>
      have hpopped : r.Traffic (r.withService
          { r.service with backlog := { r.service.backlog with queue := rest } }) rest r.sends
          [] [] := (Idles.refl r).traffic.withService _
      have hfront : r.service.backlog.queue = refsOf .synthetic ref ++ rest := hq
      exact passes_send hpopped rfl rfl hfront fun _ => rfl

theorem passes_harvestOrdinary (r : Run E P S) (app : String) :
    r.Passes r.sends (r.harvestOrdinary app) none := by
  have hasked := (r.service.sameReservoirs_askEnabled app).queue
  rw [harvestOrdinary]
  generalize r.service.askEnabled app = result at hasked ⊢
  obtain ⟨enabled, s⟩ := result
  simp only at hasked ⊢
  split
  · have hremoved : r.Idles (r.withService (s.removeOrdinary app)) :=
      (Idles.refl r).withService hasked
    exact hremoved.passes
  · have hswapped := (congrArg Backlog.queue (s.backlog_swapOut .ordinary app)).trans hasked
    generalize s.swapOut .ordinary app = result at hswapped ⊢
    obtain ⟨swapped, s'⟩ := result
    have hidle : r.Idles (r.withService s') := (Idles.refl r).withService hswapped
    simp only
    split
    · exact hidle.passes
    · split
      · exact hidle.passes
      · refine passes_send (hidle.note rfl rfl).traffic ?_ ?_ rfl fun _ => rfl
        · exact note_transport _ _
        · exact note_inBackground _ _

/-! ### The outcome of a send -/

section Settle

variable {r : Run E P S} {app : String} {flight : Flight E}

/-- What a failed batch counts, once its outcome is known. -/
theorem traffic_unsent (r : Run E P S) (kind : Kind) (batch : Batch E) (error : TransmitError)
    (app message : String) : r.Traffic ((r.note (.settled kind batch (some error))).logUnsent app
      message error) r.service.backlog.queue r.sends [] [] :=
  (((Idles.refl r).note rfl rfl).log _ _ _ _).traffic

/-- A batch goes back in front of the queue, and if there is no room, the last one goes. -/
theorem traffic_requeue {r r' : Run E P S} {counts : List Count} (ref : Ref)
    (h : r.Traffic r' r.service.backlog.queue r.sends [] counts)
    (hservice : r'.service = r.service) (hseen : r'.inBackground = r.inBackground) :
    (r.service.backlog.size < max r.service.backlog.capacity 1 ∧
      r.Traffic (r'.requeue ref) (ref :: r.service.backlog.queue) r.sends [] counts) ∨
    ∃ queue last, ref :: r.service.backlog.queue = queue ++ [last] ∧
      r.Traffic (r'.requeue ref) queue r.sends []
        (droppedCount (r.service.reservoir last).app :: counts) := by
  rw [requeue, hservice]
  by_cases hfull : max r.service.backlog.capacity 1 < (ref :: r.service.backlog.queue).length
  · have hne : ref :: r.service.backlog.queue ≠ [] := List.cons_ne_nil _ _
    have hrequeue : r.service.backlog.requeue ref =
        (some ((ref :: r.service.backlog.queue).getLast hne),
          { r.service.backlog with queue := (ref :: r.service.backlog.queue).dropLast }) := by
      rw [Backlog.requeue, if_pos hfull, List.getLast?_eq_some_getLast hne]
    refine .inr ⟨_, _, (List.dropLast_append_getLast hne).symm, ?_⟩
    simp only [hrequeue]
    have hmoved := h.withService { r.service with
      backlog := { r.service.backlog with queue := (ref :: r.service.backlog.queue).dropLast } }
    have hlogged := hmoved.note hseen (.record ⟨.warn, harvestSource,
      "synthetic backlog overflowed, some synthetic transaction events were discarded",
      [("app", .text (r.service.reservoir
        ((ref :: r.service.backlog.queue).getLast hne)).app)]⟩)
    exact hlogged.note ((note_inBackground _ _).trans hseen) _
  · have hrequeue : r.service.backlog.requeue ref =
        (none, { r.service.backlog with queue := ref :: r.service.backlog.queue }) := by
      rw [Backlog.requeue, if_neg hfull]
    refine .inl ⟨?_, ?_⟩
    · rw [List.length_cons] at hfull
      rw [Backlog.size]
      omega
    · simp only [hrequeue]
      exact h.withService _

/-- **The outcome of a synthetic send.** -/
theorem passes_settleSynthetic (r : Run E P S) (app : String) (budget : Nat) (flight : Flight E) :
    r.Passes ((.synthetic, flight) :: r.sends) (r.settleSynthetic app budget flight)
      (some (.answered .synthetic flight (flight.outcome.any (·.isTransient)))) := by
  have hsettled := (Idles.refl r).traffic.note rfl (.settled .synthetic flight.batch flight.outcome)
  rw [settleSynthetic]
  cases hout : flight.outcome with
  | none =>
    rw [hout] at hsettled
    have hcounted := hsettled.note (note_inBackground _ _)
      (.counted "events.synthetics.sent" flight.batch.events.length [appTag flight.batch.app])
    exact .landed rfl hout (hcounted.push rfl)
  | some error =>
    have hfailed : flight.outcome ≠ none := by
      rw [hout]
      exact Option.some_ne_none _
    simp only [Option.any_some]
    cases htransient : error.isTransient with
    | true =>
      have hcounted := fun message => (r.traffic_unsent .synthetic flight.batch error
        flight.batch.app message).note (by simp)
        (.counted "events.harvest.retried" 1 (kindTags flight.batch.app .synthetic))
      have hrequeued := fun message =>
        traffic_requeue flight.ref (hcounted message) (by simp) (by simp)
      rcases hrequeued _ with ⟨hroom, h⟩ | ⟨queue, last, hlast, h⟩
      · exact .requeued rfl hfailed hroom (h.endDrain (by simp) app)
      · exact .overflowed rfl hfailed hlast (h.endDrain (by simp) app)
    | false =>
      have hcounted := fun message => (r.traffic_unsent .synthetic flight.batch error
        flight.batch.app message).note (by simp)
        (.counted "events.harvest.discarded" 1 (kindTags flight.batch.app .synthetic))
      exact .failed rfl hfailed (fun _ => rfl) ((hcounted _).endDrain (by simp) app)

/-- **The outcome of an ordinary send.** -/
theorem passes_settleOrdinary {r : Run E P S} {app : String} {flight : Flight E}
    (hfits : (Frame.settleOrdinary app flight : Frame E P).Fits r.service) :
    r.Passes ((.ordinary, flight) :: r.sends) (r.settleOrdinary app flight)
      (some (.answered .ordinary flight
        (isKept r.service.settings.harvest.unexpectedErrors flight.outcome))) := by
  obtain ⟨hbatch, hb⟩ := hfits
  have happ : flight.batch.app = app := by
    rw [hbatch]
    exact hb.app
  have htries : flight.batch.tries = (r.service.reservoir flight.ref).tries := by
    rw [hbatch]
    rfl
  have hsettled := (Idles.refl r).traffic.note rfl (.settled .ordinary flight.batch flight.outcome)
  rw [settleOrdinary]
  cases hout : flight.outcome with
  | none =>
    rw [hout] at hsettled
    have hcounted := fun record => (((hsettled.note (by simp)
      (.sample ⟨"events.harvest.transmit", .elapsed, [appTag app]⟩)).note (by simp)
      (.counted "events.transaction.sent" flight.batch.events.length [appTag app])).note (by simp)
      (.counted "events.transaction.seen" (r.service.reservoir flight.ref).tries
        [appTag app])).note (by simp) (.record record)
    refine .landed rfl hout ?_
    rw [landedCounts, happ, htries]
    simp only [note_service]
    exact hcounted _
  | some error =>
    have hfailed : flight.outcome ≠ none := by
      rw [hout]
      exact Option.some_ne_none _
    have hkept : isKept r.service.settings.harvest.unexpectedErrors (some error) =
        isRetried error r.service.settings.harvest.unexpectedErrors := rfl
    simp only [note_service, logUnsent_service, hkept]
    refine .failed rfl hfailed (fun hcon => absurd hcon (by decide)) ?_
    rw [happ]
    cases hretried : isRetried error r.service.settings.harvest.unexpectedErrors with
    | true =>
      have hmerged := fun message => ((r.traffic_unsent .ordinary flight.batch error app
        message).withService ((r.service.getOrCreate .ordinary app).2.mergeInto
          (r.service.getOrCreate .ordinary app).1 flight.ref)).note (by simp [withService])
          (.counted "events.harvest.retried" 1 (kindTags app .ordinary))
      simp only [Service.backlog_mergeInto, Service.backlog_getOrCreate] at hmerged
      exact hmerged _
    | false =>
      have hcleared := fun message => ((r.traffic_unsent .ordinary flight.batch error app
        message).withService (r.service.modify flight.ref (·.clear))).note (by simp [withService])
          (.counted "events.harvest.discarded" 1 (kindTags app .ordinary))
      exact hcleared _

end Settle

/-! ### Steps -/

section Step

/-- A step that starts passes a milestone only if it is a harvest. -/
theorem passes_start {r : Run E Empty Unit} {hand : Multiset Ref} (hs : r.Sound hand)
    (s : Step E Empty) :
    r.Passes r.sends (r.start (.idle E) s)
      ((Frame.steps [s] : Frame E Empty).milestone? r.service) := by
  have hstart : r.Idles r := .refl r
  cases s with
  | recordWith app work onAsk onBuild onPriority =>
    exact (r.idles_record app work onAsk onBuild onPriority).passes
  | recordDrawn app make =>
    have hdrawn : r.Idles { r.drawPriority app with numbered := r.numbered + 1 } := by
      obtain ⟨hqueue, hsends, hdelivered, hcounts, htransport⟩ := r.idles_drawPriority app
      exact ⟨hqueue, hsends, hdelivered, hcounts, htransport⟩
    exact (hdrawn.trans (idles_record _ app _ [] [] [])).passes
  | drawPriority app => exact (r.idles_drawPriority app).passes
  | harvest app => exact passes_harvest hs app
  | change c =>
    exact (((hstart.withService (r.service.retires_change c).queue).noteAll
      (r.service.isQuiet_change c) (r.service.count?_change c)).withAnswer _).passes
  | setCapacity n =>
    exact (((hstart.withService (r.service.sameReservoirs_setCapacity n).queue).noteAll
      (r.service.isQuiet_setCapacity n) (r.service.count?_setCapacity n)).withAnswer _).passes
  | getOrCreate app =>
    exact ((hstart.withService (congrArg Backlog.queue
      (r.service.backlog_getOrCreate .ordinary app))).withAnswer _).passes
  | clear => exact ((hstart.withService r.service.retires_clearOrdinary.queue).withAnswer _).passes
  | shutDown =>
    exact (((hstart.withService r.service.retires_shutDown.queue).noteAll
      r.service.isQuiet_shutDown r.service.count?_shutDown).withAnswer _).passes
  | askEnabled app =>
    exact ((hstart.withService (r.service.sameReservoirs_askEnabled app).queue).withAnswer _).passes
  | background steps =>
    have hhidden : r.Idles { r with inBackground := true } := ⟨rfl, rfl, rfl, rfl, rfl⟩
    exact (hhidden.within steps rfl).passes
  | probe p => nomatch p

variable [HasPriority E]

theorem passes_resume {r : Run E Empty Unit} {f : Frame E Empty} {hand : Multiset Ref}
    (hs : r.Sound hand) (hfits : f.Fits r.service) :
    r.Passes (f.send?.toList ++ r.sends) (r.resume (.idle E) f) (f.milestone? r.service) := by
  cases f with
  | steps steps =>
    cases steps with
    | nil => exact (Idles.refl r).passes
    | cons s rest =>
      have hpush : Kept (fun _ => ()) False 0 r hand (r.push (.steps rest)) hand :=
        (Kept.refl hs).push trivial rfl (Multiset.add_zero _)
      have hnext := passes_start hpush.sound s
      cases s <;> exact hnext.restack
  | asked app job => exact (r.idles_afterAsk app job).passes
  | compete kind app job => exact (r.idles_compete kind app job).passes
  | built app job namesVersion goal => exact (r.idles_afterBuild app job namesVersion goal).passes
  | offer kind app job ref => exact (r.idles_offerTo kind app job ref).passes
  | drain app budget => exact r.passes_drain app budget
  | settleSynthetic app budget flight => exact r.passes_settleSynthetic app budget flight
  | ordinary app => exact r.passes_harvestOrdinary app
  | settleOrdinary app flight => exact passes_settleOrdinary hfits
  | foreground wasBackground =>
    have hback : r.Idles { r with inBackground := wasBackground } := ⟨rfl, rfl, rfl, rfl, rfl⟩
    exact hback.passes

/-- **Every step passes its milestone.** -/
theorem Sound.passes_step {r r' : Run E Empty Unit} (h : r.Sound 0)
    (hstep : r.step (.idle E) = some r') : r.Passes r.sends r' r.milestone? := by
  obtain ⟨f, rest, hstack, rfl⟩ := step_eq_some_iff.1 hstep
  have hfits : f.Fits r.service := h.fits f (by rw [hstack]; exact List.mem_cons_self)
  have hresumed := passes_resume (h.pop hstack) hfits
  have hsends : f.send?.toList ++ Run.sends { r with stack := rest } = r.sends := by
    rw [sends, sends, hstack, List.filterMap_cons]
    cases f.send? <;> rfl
  rw [hsends] at hresumed
  rw [milestone?, hstack]
  exact hresumed.restack

end Step

end Run

end Telemetry.Events
