import Telemetry.Events.Run
import Telemetry.Proofs.Events.Contents

/-!
# Reading a run

Where the events of a run are, at any point of it:

| place | reading |
|---|---|
| live reservoirs | `Store.all` |
| reservoirs being sent | `Run.flights`, from the frames that wait for an answer |
| waiting reservoirs | the queue of the backlog |
| delivered batches | `Run.delivered`, from the notes |
| on their way into a reservoir | `Frame.pending`, from the frames of records |

The reservoirs being sent and those waiting are what has been set aside (`Run.aside`). All
places together are `Run.total`, which also counts reservoirs that an operation has taken in
hand. The calls that brought the events in are `Run.recorded`.

Notes change nothing but the journal, and most of them say nothing about batches
(`Note.IsQuiet`).
-/

namespace Telemetry.Events

open Sampling (HasPriority)

variable {E P S T : Type}

/-! ### What notes say about batches -/

namespace Note

/-- The batch that was handed to the transport. -/
def attempted? : Note E → Option (Kind × Batch E)
  | .attempt kind batch _ => some (kind, batch)
  | _ => none

/-- The batch that was delivered. -/
def delivered? : Note E → Option (Kind × Batch E)
  | .settled kind batch none => some (kind, batch)
  | _ => none

/-- A note that says nothing about batches. -/
structure IsQuiet (n : Note E) : Prop where
  attempted : n.attempted? = none
  delivered : n.delivered? = none

theorem isQuiet_record (record : Log.Record) : (.record record : Note E).IsQuiet := ⟨rfl, rfl⟩

theorem isQuiet_sample (sample : Metrics.Sample) : (.sample sample : Note E).IsQuiet := ⟨rfl, rfl⟩

theorem isQuiet_counted (name : String) (n : Nat) (tags : List (String × String)) :
    (counted name n tags : Note E).IsQuiet := ⟨rfl, rfl⟩

theorem isQuiet_gauged (name : String) (n : Nat) (tags : List (String × String)) :
    (gauged name n tags : Note E).IsQuiet := ⟨rfl, rfl⟩

theorem isQuiet_settled (kind : Kind) (batch : Batch E) (error : TransmitError) :
    (.settled kind batch (some error) : Note E).IsQuiet := ⟨rfl, rfl⟩

end Note

/-- The notes of a configuration change say nothing about batches. -/
theorem Service.isQuiet_change (s : Service E) (c : ConfigChange) :
    ∀ n ∈ (s.change c).2, n.IsQuiet := by
  intro n hn
  cases c <;> (obtain rfl := List.mem_singleton.1 hn; exact Note.isQuiet_record _)

theorem Service.isQuiet_setCapacity (s : Service E) (k : Nat) :
    ∀ n ∈ (s.setCapacity k).2, n.IsQuiet := by
  intro n hn
  unfold setCapacity at hn
  split at hn
  · exact absurd hn List.not_mem_nil
  · obtain rfl := List.mem_singleton.1 hn
    exact Note.isQuiet_record _

theorem Service.isQuiet_shutDown (s : Service E) : ∀ n ∈ s.shutDown.2, n.IsQuiet := by
  intro n hn
  unfold shutDown at hn
  split at hn
  · exact absurd hn List.not_mem_nil
  · obtain rfl := List.mem_singleton.1 hn
    exact Note.isQuiet_record _

/-! ### What frames hold -/

/-- The kind that a record call names. -/
def Work.kind (w : Work E) : Kind := if w.isSynthetic then .synthetic else .ordinary

/-- The event of a job, on its way into a reservoir. -/
def Job.parcel (label : String → T) (kind : Kind) (app : String) (job : Job E P) :
    T × String × E :=
  (label kind.service, app, job.work.event)

namespace Frame

/-- The send that a frame waits for. -/
def flight? : Frame E P → Option (Flight E)
  | .settleSynthetic _ _ flight => some flight
  | .settleOrdinary _ flight => some flight
  | _ => none

/-- The event that a frame will offer. -/
def pending (label : String → T) : Frame E P → Multiset (T × String × E)
  | .asked app job => {job.parcel label job.work.kind app}
  | .compete kind app job => {job.parcel label kind app}
  | .built app job _ (some _) => {job.parcel label .ordinary app}
  | .built app job _ none => {job.parcel label .synthetic app}
  | .offer kind app job _ => {job.parcel label kind app}
  | _ => 0

end Frame

/-- The events of a batch, as parcels. -/
def Batch.parcels (label : String → T) (kind : Kind) (batch : Batch E) :
    Multiset (T × String × E) :=
  (batch.events : Multiset E).map fun e => (label kind.service, batch.app, e)

theorem Service.Belongs.parcels_batch {s : Service E} {kind : Kind} {app : String} {ref : Ref}
    (h : s.Belongs kind app ref) (label : String → T) :
    (s.batch ref).parcels label kind = s.stock label {ref} := by
  rw [Service.stock_singleton, Batch.parcels, Sampling.Reservoir.parcels,
    ← Sampling.Reservoir.coe_toList]
  refine Multiset.map_congr rfl fun event _ => ?_
  rw [h.parcel]
  exact congrArg (fun app => (label kind.service, app, event)) h.app

/-- What holds of all steps inside planned sends holds of those inside the next send. -/
theorem Transport.forall_send {p : Step E P → Prop} {t : Transport E P}
    (h : ∀ reply ∈ t.planned, ∀ s ∈ reply.during, p s) (batch : Batch E) :
    (∀ s ∈ (t.send batch).1.during, p s) ∧
      ∀ reply ∈ (t.send batch).2.planned, ∀ s ∈ reply.during, p s := by
  rw [Transport.send]
  split
  next reply rest hplanned =>
    rw [hplanned] at h
    exact ⟨h reply List.mem_cons_self, fun reply' hm => h reply' (List.mem_cons_of_mem reply hm)⟩
  next => exact ⟨fun s hs => absurd hs List.not_mem_nil, h⟩

namespace Run

/-! ### Notes change nothing but the journal -/

section Note

variable (r : Run E P S) (n : Note E)

@[simp] theorem note_service : (r.note n).service = r.service := by
  rw [note]
  split <;> rfl

@[simp] theorem note_stack : (r.note n).stack = r.stack := by
  rw [note]
  split <;> rfl

@[simp] theorem note_transport : (r.note n).transport = r.transport := by
  rw [note]
  split <;> rfl

theorem filterMap_note {α : Type} {f : Note E → Option α} (h : n.isPublic = false → f n = none) :
    (r.note n).notes.filterMap f = (f n).toList ++ r.notes.filterMap f := by
  rw [note]
  split
  next hhidden =>
    rw [h (by simpa using (Bool.and_eq_true_iff.1 hhidden).2)]
    rfl
  next => cases hf : f n <;> simp [hf]

end Note

@[simp] theorem logUnsent_service (r : Run E P S) (app message : String) (error : TransmitError) :
    (r.logUnsent app message error).service = r.service := note_service _ _

@[simp] theorem logUnsent_stack (r : Run E P S) (app message : String) (error : TransmitError) :
    (r.logUnsent app message error).stack = r.stack := note_stack _ _

theorem service_noteAll (r : Run E P S) (ns : List (Note E)) :
    (r.noteAll ns).service = r.service := by
  induction ns generalizing r with
  | nil => rfl
  | cons n ns ih => exact (ih _).trans (note_service r n)

theorem stack_noteAll (r : Run E P S) (ns : List (Note E)) : (r.noteAll ns).stack = r.stack := by
  induction ns generalizing r with
  | nil => rfl
  | cons n ns ih => exact (ih _).trans (note_stack r n)

theorem transport_noteAll (r : Run E P S) (ns : List (Note E)) :
    (r.noteAll ns).transport = r.transport := by
  induction ns generalizing r with
  | nil => rfl
  | cons n ns ih => exact (ih _).trans (note_transport r n)

@[simp] theorem absorb_service (r : Run E P S) (result : Service E × List (Note E)) :
    (r.absorb result).service = result.1 := service_noteAll _ _

@[simp] theorem absorb_stack (r : Run E P S) (result : Service E × List (Note E)) :
    (r.absorb result).stack = r.stack := stack_noteAll _ _

@[simp] theorem absorb_transport (r : Run E P S) (result : Service E × List (Note E)) :
    (r.absorb result).transport = r.transport := transport_noteAll _ _

/-- The batches handed to the transport, latest first. -/
def attempted (r : Run E P S) : List (Kind × Batch E) := r.notes.filterMap Note.attempted?

/-- The batches delivered, latest first. -/
def delivered (r : Run E P S) : List (Kind × Batch E) := r.notes.filterMap Note.delivered?

@[simp] theorem attempted_note (r : Run E P S) (n : Note E) :
    (r.note n).attempted = n.attempted?.toList ++ r.attempted :=
  r.filterMap_note n fun h => by cases n <;> first | rfl | exact absurd h (by simp [Note.isPublic])

@[simp] theorem delivered_note (r : Run E P S) (n : Note E) :
    (r.note n).delivered = n.delivered?.toList ++ r.delivered :=
  r.filterMap_note n fun h => by cases n <;> first | rfl | exact absurd h (by simp [Note.isPublic])

/-! ### Where the events are -/

/-- The sends in progress. -/
def flights (r : Run E P S) : List (Flight E) := r.stack.filterMap Frame.flight?

/-- The reservoirs that have been swapped out and are kept: waiting, or being sent. -/
def aside (r : Run E P S) : Multiset Ref :=
  (r.service.backlog.queue : Multiset Ref) + (r.flights.map (·.ref) : List Ref)

/-- **All events of a run**, where the reservoirs in `hand` count as well. -/
def total (label : String → T) (r : Run E P S) (hand : Multiset Ref) :
    Multiset (T × String × E) :=
  r.service.holding label (r.aside + hand) + (r.stack.map (Frame.pending label)).sum +
    (r.delivered.map fun b => b.2.parcels label b.1).sum

theorem total_add (label : String → T) (r : Run E P S) (hand refs : Multiset Ref) :
    r.total label (hand + refs) = r.total label hand + r.service.stock label refs := by
  rw [total, total, ← Multiset.add_assoc, Service.holding_add]
  abel

/-- The record call that a step is. -/
def callOf? [HasPriority E] (r : Run E P S) : Step E P → Option (String × Work E)
  | .recordWith app work _ _ _ => some (app, work)
  | .recordDrawn app make => some (app, make (r.numbered + 1) (r.drawPriority app).lastDrawn)
  | _ => none

/-- The record call that a frame starts when it is resumed. -/
def callFrom? [HasPriority E] (r : Run E P S) : Frame E P → Option (String × Work E)
  | .steps (s :: _) => r.callOf? s
  | _ => none

/-- The record call that the next step of a run starts. -/
def call? [HasPriority E] (r : Run E P S) : Option (String × Work E) :=
  r.stack.head?.bind r.callFrom?

/-- The record calls among a number of steps, earliest first. -/
def recorded [HasPriority E] (observer : Observer E P S) : Nat → Run E P S → List (String × Work E)
  | 0, _ => []
  | n + 1, r =>
    match r.step observer with
    | none => []
    | some r' => r.call?.toList ++ recorded observer n r'

/-- The run of some steps on a fresh service. -/
def fresh (settings : Config.Settings) (transport : Transport E Empty)
    (steps : List (Step E Empty)) (random : Random.Source) : Run E Empty Unit where
  service := (Service.create settings).1
  transport := transport
  stack := [.steps steps]
  random := random
  observed := ()

/-! ### Steps -/

@[simp] theorem stack_within (r : Run E P S) (steps : List (Step E P)) (f : Frame E P) :
    (r.within steps f).stack = .steps steps :: f :: r.stack := rfl

/-- The reply to the send of a reservoir. -/
def replyTo (r : Run E P S) (ref : Ref) : Reply E P := (r.transport.send (r.service.batch ref)).1

/-- The transport after the send of a reservoir. -/
def transportAfter (r : Run E P S) (ref : Ref) : Transport E P :=
  (r.transport.send (r.service.batch ref)).2

theorem send_eq (r : Run E P S) (kind : Kind) (ref : Ref) (settle : Flight E → Frame E P) :
    r.send kind ref settle =
      ({ r with transport := r.transportAfter ref }.note
          (.attempt kind (r.service.batch ref) (r.replyTo ref).outcome)).within
        (r.replyTo ref).during
        (settle ⟨ref, r.service.batch ref, (r.replyTo ref).outcome⟩) := rfl

/-- **The event that comes back is the one that was offered**, so a record that goes on goes on
with the same job. -/
theorem offerTo_eq [HasPriority E] (r : Run E P S) (kind : Kind) (app : String) (job : Job E P)
    (ref : Ref) :
    r.offerTo kind app job ref =
      match r.service.offer ref (HasPriority.priority job.work.event) job.work.event, kind with
      | (.accepted, s), .synthetic => ((r.withService s).log .trace serviceSource
          "added synthetic transaction event" [("app", .text app)]).finish job
      | (.accepted, s), .ordinary => (r.withService s).finish job
      | (.rejected _, s), .synthetic => (r.withService s).push (.compete .ordinary app job)
      | (.rejected _, s), .ordinary => (r.withService s).finish job
      | (.closed _, s), kind => (r.withService s).push (.compete kind app job) := by
  have hreturned := r.service.offer_fst_cases ref (HasPriority.priority job.work.event)
    job.work.event
  rw [offerTo]
  generalize r.service.offer ref (HasPriority.priority job.work.event) job.work.event = result
    at hreturned ⊢
  obtain ⟨decision, s⟩ := result
  rcases hreturned with rfl | rfl | rfl <;> cases kind <;> rfl

section Advance

variable [HasPriority E] {observer : Observer E P S} {r : Run E P S}

theorem advance_succ_of_none (h : r.step observer = none) (n : Nat) :
    r.advance observer (n + 1) = r := by
  rw [advance, h]

theorem advance_succ_of_some {r' : Run E P S} (h : r.step observer = some r') (n : Nat) :
    r.advance observer (n + 1) = r'.advance observer n := by
  rw [advance, h]

theorem advance_of_none (h : r.step observer = none) (n : Nat) : r.advance observer n = r := by
  cases n with
  | zero => rfl
  | succ n => exact advance_succ_of_none h n

/-- A run goes on from where it has got to. -/
theorem advance_add (r : Run E P S) (m n : Nat) :
    r.advance observer (m + n) = (r.advance observer m).advance observer n := by
  induction m generalizing r with
  | zero => rw [Nat.zero_add, advance]
  | succ m ih =>
    rw [Nat.add_right_comm]
    cases hstep : r.step observer with
    | none => rw [advance_succ_of_none hstep, advance_succ_of_none hstep, advance_of_none hstep]
    | some r' => rw [advance_succ_of_some hstep, advance_succ_of_some hstep, ih]

theorem recorded_succ_of_none (h : r.step observer = none) (n : Nat) :
    r.recorded observer (n + 1) = [] := by
  rw [recorded, h]

theorem recorded_succ_of_some {r' : Run E P S} (h : r.step observer = some r') (n : Nat) :
    r.recorded observer (n + 1) = r.call?.toList ++ r'.recorded observer n := by
  rw [recorded, h]

theorem callOf?_stack (r : Run E P S) (stack : List (Frame E P)) (s : Step E P) :
    callOf? { r with stack := stack } s = r.callOf? s := by
  cases s <;> rfl

theorem call?_of_stack {f : Frame E P} {rest : List (Frame E P)} (h : r.stack = f :: rest) :
    r.call? = callFrom? { r with stack := rest } f := by
  rw [call?, h]
  change r.callFrom? f = _
  unfold callFrom?
  split
  · exact (r.callOf?_stack rest _).symm
  · rfl

/-- A step takes a frame off the stack and resumes it. -/
theorem step_eq_some_iff {r' : Run E P S} :
    r.step observer = some r' ↔ ∃ f rest, r.stack = f :: rest ∧
      { r with stack := rest }.resume observer f = r' := by
  rw [step]
  cases r.stack with
  | nil => simp
  | cons f rest => simp [eq_comm]

/-- A run has ended once nothing is left on the stack. -/
theorem step_eq_none_iff : r.step observer = none ↔ r.stack = [] := by
  rw [step]
  cases r.stack <;> simp

end Advance

end Run

end Telemetry.Events
