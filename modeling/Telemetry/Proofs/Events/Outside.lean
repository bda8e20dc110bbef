import Telemetry.Proofs.Events.Run
import Telemetry.Proofs.Events.Transmitter

/-!
# What the outside has of a run

Three parts of a run lie outside of its service: the state of an observer, the transport, and the
batches that the transport took, as the journal tells them (`Run.outside`). Whatever a frame resumes
with, they stay as they are, with two exceptions:

| what is done | what changes outside |
|---|---|
| a probe | the state of the observer, and what the probe notes (`Run.observed_start_probe`) |
| a send | the transport, and the batch that it took, if it did (`Outside.handOver`) |

So only probes change what is observed (`Run.observed_step`). And a transmitter whose output is
without fault holds a line for each batch that was taken, in order, and nothing else
(`Outside.IsWritten`), however often it finds its collector down: that is kept by a send, and by
every run without probes (`Run.isWritten_advance`).
-/

namespace Telemetry.Events

open Sampling (HasPriority)

variable {E P S : Type}

/-! ### What has been taken -/

namespace Note

/-- The batch that a note says was taken by the transport. -/
def taken? : Note E → Option (Kind × Batch E)
  | .attempt kind batch none => some (kind, batch)
  | _ => none

theorem IsQuiet.taken {n : Note E} (h : n.IsQuiet) : n.taken? = none := by
  cases n with
  | attempt kind batch outcome => exact nomatch h.attempted
  | _ => rfl

end Note

/-- The parts of a run that lie outside of its service. -/
structure Outside (E P S : Type) where
  observed : S
  transport : Transport E P
  /-- The batches taken by the transport, latest first. -/
  taken : List (Kind × Batch E)

/-- What the outside has once a batch has been handed over. -/
def Outside.handOver (o : Outside E P S) (kind : Kind) (batch : Batch E) : Outside E P S where
  observed := o.observed
  transport := (o.transport.send batch).2
  taken := (Note.attempt kind batch (o.transport.send batch).1.outcome).taken?.toList ++ o.taken

namespace Run

/-- The batches taken by the transport, latest first. -/
def taken (r : Run E P S) : List (Kind × Batch E) := r.notes.filterMap Note.taken?

@[simp] theorem taken_note (r : Run E P S) (n : Note E) :
    (r.note n).taken = n.taken?.toList ++ r.taken :=
  r.filterMap_note n fun h => by cases n <;> first | rfl | exact absurd h (by simp [Note.isPublic])

/-- **What the outside has of a run.** -/
def outside (r : Run E P S) : Outside E P S := ⟨r.observed, r.transport, r.taken⟩

/-! ### Frames leave it as it is -/

section Kept

theorem observed_note (r : Run E P S) (n : Note E) : (r.note n).observed = r.observed := by
  rw [note]
  split <;> rfl

theorem observed_noteAll (r : Run E P S) (ns : List (Note E)) :
    (r.noteAll ns).observed = r.observed := by
  induction ns generalizing r with
  | nil => rfl
  | cons n ns ih => exact (ih _).trans (r.observed_note n)

theorem outside_note (r : Run E P S) {n : Note E} (h : n.taken? = none) :
    (r.note n).outside = r.outside := by
  rw [outside, observed_note, note_transport, taken_note, h]
  rfl

theorem outside_noteAll (r : Run E P S) {ns : List (Note E)} (h : ∀ n ∈ ns, n.IsQuiet) :
    (r.noteAll ns).outside = r.outside := by
  induction ns generalizing r with
  | nil => rfl
  | cons n ns ih =>
    refine (ih _ fun m hm => h m (List.mem_cons_of_mem n hm)).trans (r.outside_note ?_)
    exact (h n List.mem_cons_self).taken

theorem outside_absorb (r : Run E P S) {result : Service E × List (Note E)}
    (h : ∀ n ∈ result.2, n.IsQuiet) : (r.absorb result).outside = r.outside :=
  outside_noteAll _ h

@[simp] theorem outside_counted (r : Run E P S) (name : String) (n : Nat)
    (tags : List (String × String)) : (r.note (.counted name n tags)).outside = r.outside :=
  r.outside_note rfl

@[simp] theorem outside_gauged (r : Run E P S) (name : String) (n : Nat)
    (tags : List (String × String)) : (r.note (.gauged name n tags)).outside = r.outside :=
  r.outside_note rfl

@[simp] theorem outside_sample (r : Run E P S) (sample : Metrics.Sample) :
    (r.note (.sample sample)).outside = r.outside := r.outside_note rfl

@[simp] theorem outside_settled (r : Run E P S) (kind : Kind) (batch : Batch E)
    (outcome : Outcome) : (r.note (.settled kind batch outcome)).outside = r.outside :=
  r.outside_note rfl

@[simp] theorem outside_log (r : Run E P S) (severity : Log.Severity) (source message : String)
    (fields : List (String × Log.FieldValue)) :
    (r.log severity source message fields).outside = r.outside := r.outside_note rfl

@[simp] theorem outside_logUnsent (r : Run E P S) (app message : String) (error : TransmitError) :
    (r.logUnsent app message error).outside = r.outside := r.outside_note rfl

@[simp] theorem outside_push (r : Run E P S) (f : Frame E P) : (r.push f).outside = r.outside :=
  rfl

@[simp] theorem outside_within (r : Run E P S) (steps : List (Step E P)) (f : Frame E P) :
    (r.within steps f).outside = r.outside := rfl

@[simp] theorem outside_withService (r : Run E P S) (s : Service E) :
    (r.withService s).outside = r.outside := rfl

@[simp] theorem outside_withAnswer (r : Run E P S) (a : Answer) :
    (r.withAnswer a).outside = r.outside := rfl

@[simp] theorem outside_finish (r : Run E P S) (job : Job E P) :
    (r.finish job).outside = r.outside := rfl

section Record

variable [HasPriority E]

@[simp] theorem outside_offerTo (r : Run E P S) (kind : Kind) (app : String) (job : Job E P)
    (ref : Ref) : (r.offerTo kind app job ref).outside = r.outside := by
  rw [offerTo_eq]
  generalize r.service.offer ref (HasPriority.priority job.work.event) job.work.event = result
  obtain ⟨decision, s⟩ := result
  cases decision <;> cases kind <;> simp

@[simp] theorem outside_submit (r : Run E P S) (kind : Kind) (app : String) (job : Job E P)
    (ref : Ref) : (r.submit kind app job ref).outside = r.outside := by
  rw [submit]
  split <;> simp

@[simp] theorem outside_compete (r : Run E P S) (kind : Kind) (app : String) (job : Job E P) :
    (r.compete kind app job).outside = r.outside := by
  rw [compete]
  grind [outside_submit, outside_within, outside_finish, outside_push, outside_withService]

@[simp] theorem outside_afterBuild (r : Run E P S) (app : String) (job : Job E P)
    (namesVersion : Nat) (goal : Option Ref) :
    (r.afterBuild app job namesVersion goal).outside = r.outside := by
  cases goal <;> simp [afterBuild]

@[simp] theorem outside_afterAsk (r : Run E P S) (app : String) (job : Job E P) :
    (r.afterAsk app job).outside = r.outside := by
  rw [afterAsk]
  split <;> simp

omit [HasPriority E] in
theorem outside_record (r : Run E P S) (app : String) (work : Work E)
    (onAsk onBuild : List (Step E P)) (onPriority : List (List (Step E P))) :
    (r.record app work onAsk onBuild onPriority).outside = r.outside := by
  rw [record]
  generalize r.service.askEnabled app = result
  obtain ⟨enabled, s⟩ := result
  split
  · rfl
  · cases enabled <;> rfl

end Record

@[simp] theorem outside_enqueue (r : Run E P S) (app : String) (ref : Ref) :
    (r.enqueue app ref).outside = r.outside := by
  rw [enqueue]
  split <;> simp

theorem outside_harvest (r : Run E P S) (app : String) :
    (r.harvest app).outside = r.outside := by
  rw [harvest]
  split
  · rfl
  · dsimp only
    split
    · split <;> simp
    · simp

@[simp] theorem outside_endDrain (r : Run E P S) (app : String) :
    (r.endDrain app).outside = r.outside := by
  simp [endDrain]

@[simp] theorem outside_requeue (r : Run E P S) (ref : Ref) :
    (r.requeue ref).outside = r.outside := by
  rw [requeue]
  generalize r.service.backlog.requeue ref = result
  obtain ⟨dropped, backlog⟩ := result
  cases dropped <;> simp

@[simp] theorem outside_settleSynthetic (r : Run E P S) (app : String) (budget : Nat)
    (flight : Flight E) : (r.settleSynthetic app budget flight).outside = r.outside := by
  rw [settleSynthetic]
  split
  · simp
  · split <;> simp

@[simp] theorem outside_settleOrdinary (r : Run E P S) (app : String) (flight : Flight E) :
    (r.settleOrdinary app flight).outside = r.outside := by
  rw [settleOrdinary]
  split
  · simp
  · split <;> simp

end Kept

/-! ### Sends -/

/-- At most one batch is handed to the transport, and nothing else happens outside. -/
def Forwards (r r' : Run E P S) : Prop :=
  r'.outside = r.outside ∨ ∃ kind batch, r'.outside = r.outside.handOver kind batch

theorem outside_send (r : Run E P S) (kind : Kind) (ref : Ref) (settle : Flight E → Frame E P) :
    (r.send kind ref settle).outside = r.outside.handOver kind (r.service.batch ref) := by
  rw [send_eq, outside_within, outside, observed_note, note_transport, taken_note]
  rfl

theorem Forwards.observed {r r' : Run E P S} (h : r.Forwards r') : r'.observed = r.observed := by
  rcases h with h | ⟨kind, batch, h⟩
  · exact congrArg Outside.observed h
  · exact congrArg Outside.observed h

theorem forwards_send {r r' : Run E P S} (h : r'.outside = r.outside) (kind : Kind) (ref : Ref)
    (settle : Flight E → Frame E P) : r.Forwards (r'.send kind ref settle) :=
  .inr ⟨kind, r'.service.batch ref, by rw [outside_send, h]⟩

theorem forwards_drain (r : Run E P S) (app : String) (budget : Nat) :
    r.Forwards (r.drain app budget) := by
  unfold drain
  split
  · exact forwards_send rfl _ _ _
  · exact .inl (r.outside_endDrain app)

theorem forwards_harvestOrdinary (r : Run E P S) (app : String) :
    r.Forwards (r.harvestOrdinary app) := by
  rw [harvestOrdinary]
  generalize r.service.askEnabled app = result
  obtain ⟨enabled, s⟩ := result
  cases enabled with
  | false => exact .inl rfl
  | true =>
    simp only [Bool.not_true, Bool.false_eq_true, if_false]
    split
    · exact .inl rfl
    · split
      · exact .inl rfl
      · exact forwards_send (outside_gauged _ _ _ _) _ _ _

/-! ### A step of a run -/

/-- The probe that the next step of a run makes. -/
def probe? (r : Run E P S) : Option P :=
  match r.stack with
  | .steps (.probe p :: _) :: _ => some p
  | _ => none

section Step

variable {observer : Observer E P S} {r r' : Run E P S}

theorem observed_start_probe (r : Run E P S) (p : P) :
    (r.start observer (.probe p)).observed = (observer.act p r.observed r.service).1 :=
  observed_noteAll _ _

theorem outside_start (r : Run E P S) {s : Step E P} (hs : ∀ p, s ≠ .probe p) :
    (r.start observer s).outside = r.outside := by
  cases s with
  | probe p => exact absurd rfl (hs p)
  | recordWith | recordDrawn => exact outside_record ..
  | harvest => exact outside_harvest ..
  | change c => exact outside_absorb _ (r.service.isQuiet_change c)
  | setCapacity n => exact outside_absorb _ (r.service.isQuiet_setCapacity n)
  | shutDown => exact outside_absorb _ r.service.isQuiet_shutDown
  | drawPriority | getOrCreate | clear | askEnabled | background => rfl

/-- **A step without a probe** hands over a batch, or does nothing outside. -/
theorem forwards_step [HasPriority E] (h : r.step observer = some r') (hprobe : r.probe? = none) :
    r.Forwards r' := by
  obtain ⟨f, rest, hstack, rfl⟩ := step_eq_some_iff.1 h
  rw [probe?, hstack] at hprobe
  cases f with
  | steps steps =>
    cases steps with
    | nil => exact .inl rfl
    | cons s later =>
      refine .inl (outside_start _ ?_)
      rintro p rfl
      exact absurd hprobe (Option.some_ne_none p)
  | drain app budget => exact forwards_drain _ app budget
  | ordinary app => exact forwards_harvestOrdinary _ app
  | foreground => exact .inl rfl
  | _ => exact .inl (by simp [resume]; rfl)

/-- **A step of a run** changes what is observed if it is a probe, and not otherwise. -/
theorem observed_step [HasPriority E] (h : r.step observer = some r') :
    (∀ p, r.probe? = some p → r'.observed = (observer.act p r.observed r.service).1) ∧
      (r.probe? = none → r'.observed = r.observed) := by
  refine ⟨fun p hp => ?_, fun hprobe => (forwards_step h hprobe).observed⟩
  obtain ⟨f, rest, hstack, rfl⟩ := step_eq_some_iff.1 h
  rw [probe?, hstack] at hp
  cases f with
  | steps steps =>
    cases steps with
    | nil => nomatch hp
    | cons s later =>
      cases s with
      | probe q =>
        obtain rfl := Option.some.inj hp
        exact observed_start_probe _ q
      | _ => nomatch hp
  | _ => nomatch hp

end Step

end Run

/-! ### What is written -/

variable {line : Batch E → String}

/-- **A transport that writes**: a transmitter that has written some batches, and inside whose
sends nothing runs. -/
structure Transport.HasWritten (t : Transport E P) (line : Batch E → String)
    (batches : List (Batch E)) : Prop where
  planned : t.planned = []
  transmitter : ∃ m, t.habit = .transmitting m ∧ m.HasWritten line batches

theorem Transport.HasWritten.send {t : Transport E P} {batches : List (Batch E)}
    (h : t.HasWritten line batches) (batch : Batch E) :
    (t.send batch).2.HasWritten line
      (if (t.send batch).1.outcome = none then batches ++ [batch] else batches) := by
  obtain ⟨planned, habit⟩ := t
  obtain rfl : planned = [] := h.planned
  obtain ⟨m, rfl, hwritten⟩ := h.transmitter
  exact ⟨rfl, (m.send batch).2, rfl, hwritten.send batch⟩

theorem Transport.HasWritten.output {t : Transport E P} {batches : List (Batch E)}
    (h : t.HasWritten line batches) : t.output = outputOf line batches := by
  obtain ⟨m, hhabit, hwritten⟩ := h.transmitter
  rw [Transport.output, hhabit]
  exact hwritten.output

/-- **The transport has written what it took**, in order, and nothing else. -/
def Outside.IsWritten (o : Outside E P S) (line : Batch E → String) : Prop :=
  o.transport.HasWritten line (o.taken.reverse.map (·.2))

theorem Outside.IsWritten.handOver {o : Outside E P S} (h : o.IsWritten line) (kind : Kind)
    (batch : Batch E) : (o.handOver kind batch).IsWritten line := by
  have hsent := Transport.HasWritten.send h batch
  rw [IsWritten, Outside.handOver]
  cases hout : (o.transport.send batch).1.outcome with
  | none =>
    rw [hout, if_pos rfl] at hsent
    simpa [Note.taken?] using hsent
  | some error =>
    rw [hout, if_neg (Option.some_ne_none error)] at hsent
    exact hsent

namespace Run

variable [HasPriority E] {r r' : Run E Empty S} {observer : Observer E Empty S}

/-- A step hands over a batch at most, and what it hands over is written if it is taken. -/
theorem isWritten_step (h : r.outside.IsWritten line) (hstep : r.step observer = some r') :
    r'.outside.IsWritten line := by
  have hprobe : r.probe? = none := Option.eq_none_iff_forall_not_mem.2 fun p => p.elim
  rcases forwards_step hstep hprobe with hsame | ⟨kind, batch, hsent⟩
  · rwa [hsame]
  · rw [hsent]
    exact h.handOver kind batch

/-- **What a transmitter has written** are the batches taken, at any point of a run. -/
theorem isWritten_advance (h : r.outside.IsWritten line) (n : Nat) :
    (r.advance observer n).outside.IsWritten line := by
  induction n generalizing r with
  | zero => exact h
  | succ n ih =>
    cases hstep : r.step observer with
    | none => rwa [advance_succ_of_none hstep]
    | some r' =>
      rw [advance_succ_of_some hstep]
      exact ih (isWritten_step h hstep)

end Run

end Telemetry.Events
