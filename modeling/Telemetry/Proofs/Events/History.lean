import Telemetry.Proofs.Events.Run

/-!
# What the batches of a run depend on

The *history* of a run has a moment for every record call that begins and for every batch that
is handed to the transport, in the order in which these happen (`Run.history`). From the history
alone one can tell what an application is *owed* at any time: the record calls since the latest
attempt to send for it that was not retried (`owed`). An attempt that is retried changes nothing
about that, as if it had not been made.
-/

namespace Telemetry.Events

open Sampling (HasPriority)
open Config (UnexpectedErrorPolicy)

variable {E P S : Type}

/-- What later batches of a run may depend on. -/
inductive Moment (E : Type)
  /-- A record call began. -/
  | recorded (app : String) (work : Work E)
  /-- A batch was handed to the transport, which is going to answer with the outcome. -/
  | sent (kind : Kind) (batch : Batch E) (outcome : Outcome)

/-- The application that an ordinary batch was handed over for. -/
def Moment.sentFor? : Moment E → Option String
  | .sent .ordinary batch _ => some batch.app
  | _ => none

theorem Moment.sentFor?_eq_some {m : Moment E} {app : String} (h : m.sentFor? = some app) :
    ∃ batch outcome, m = .sent .ordinary batch outcome ∧ batch.app = app := by
  rcases m with ⟨app', work⟩ | ⟨kind, batch, outcome⟩
  · nomatch h
  · cases kind with
    | ordinary => exact ⟨batch, outcome, rfl, Option.some.inj h⟩
    | synthetic => nomatch h

/-- The attempt that a note tells of. -/
def Note.sent? : Note E → Option (Moment E)
  | .attempt kind batch outcome => some (.sent kind batch outcome)
  | _ => none

theorem Note.IsQuiet.sent {n : Note E} (h : n.IsQuiet) : n.sent? = none := by
  cases n with
  | attempt kind batch outcome => exact nomatch h.attempted
  | _ => rfl

/-! ### What is owed -/

/-- Whether a batch is kept for another attempt after an outcome. -/
def isKept (policy : UnexpectedErrorPolicy) (outcome : Outcome) : Bool :=
  outcome.any fun error => Run.isRetried error policy

/-- What an application is owed after a moment: one more record call, or nothing any more if a
batch has been sent for it that is not retried. -/
def owedAfter (policy : UnexpectedErrorPolicy) (app : String) (calls : List (Work E)) :
    Moment E → List (Work E)
  | .recorded app' work => if app' = app then work :: calls else calls
  | .sent .ordinary batch outcome =>
    if batch.app = app ∧ isKept policy outcome = false then [] else calls
  | .sent .synthetic _ _ => calls

/-- **What an application is owed** after a history: the record calls since the latest ordinary
batch of it that was not retried, or since the start; the latest call first. -/
def owed (policy : UnexpectedErrorPolicy) (app : String) (history : List (Moment E)) :
    List (Work E) :=
  history.foldl (owedAfter policy app) []

/-- Whether a moment is an attempt that is retried. -/
def Moment.isRetried (policy : UnexpectedErrorPolicy) : Moment E → Bool
  | .sent _ _ outcome => isKept policy outcome
  | _ => false

theorem owedAfter_of_isRetried {policy : UnexpectedErrorPolicy} {m : Moment E}
    (h : m.isRetried policy) (app : String) (calls : List (Work E)) :
    owedAfter policy app calls m = calls := by
  rcases m with ⟨app', work⟩ | ⟨kind, batch, outcome⟩
  · nomatch h
  · cases kind with
    | ordinary =>
      refine if_neg fun hcon => Bool.false_ne_true ?_
      exact hcon.2.symm.trans h
    | synthetic => rfl

/-- **Attempts that are retried do not matter** for what is owed. -/
theorem owed_filter (policy : UnexpectedErrorPolicy) (app : String) (history : List (Moment E)) :
    owed policy app (history.filter fun m => !m.isRetried policy) = owed policy app history := by
  rw [owed, List.foldl_filter]
  refine List.foldl_ext _ _ _ fun calls m _ => ?_
  cases h : m.isRetried policy with
  | true => exact (owedAfter_of_isRetried h app calls).symm
  | false => rfl

namespace Run

/-- The batches handed to the transport, as moments, latest first. -/
def sent (r : Run E P S) : List (Moment E) := r.notes.filterMap Note.sent?

@[simp] theorem sent_note (r : Run E P S) (n : Note E) :
    (r.note n).sent = n.sent?.toList ++ r.sent :=
  r.filterMap_note n fun h => by cases n <;> first | rfl | exact absurd h (by simp [Note.isPublic])

/-- The moments of the step from one state of a run to the next: the record call that it starts,
and the batches it has handed to the transport. -/
def moments [HasPriority E] (r r' : Run E P S) : List (Moment E) :=
  (r.call?.map fun c => .recorded c.1 c.2).toList ++
    (r'.sent.take (r'.sent.length - r.sent.length)).reverse

/-- **The history of a number of steps**, earliest moment first. -/
def history [HasPriority E] (observer : Observer E P S) : Nat → Run E P S → List (Moment E)
  | 0, _ => []
  | n + 1, r =>
    match r.step observer with
    | none => []
    | some r' => r.moments r' ++ history observer n r'

section History

variable [HasPriority E] {observer : Observer E P S} {r r' : Run E P S}

theorem history_succ_of_none (h : r.step observer = none) (n : Nat) :
    r.history observer (n + 1) = [] := by
  rw [history, h]

theorem history_succ_of_some (h : r.step observer = some r') (n : Nat) :
    r.history observer (n + 1) = r.moments r' ++ r'.history observer n := by
  rw [history, h]

/-- A step that hands over nothing has only its record call for a moment. -/
theorem moments_of_sent_eq (h : r'.sent = r.sent) :
    r.moments r' = (r.call?.map fun c => .recorded c.1 c.2).toList := by
  rw [moments, h, Nat.sub_self, List.take_zero, List.reverse_nil, List.append_nil]

/-- A step that records nothing has only the batch that it hands over for a moment. -/
theorem moments_of_sent_cons (hcall : r.call? = none) {m : Moment E} (h : r'.sent = m :: r.sent) :
    r.moments r' = [m] := by
  have hone : (m :: r.sent).length - r.sent.length = 1 := by
    rw [List.length_cons]
    omega
  rw [moments, h, hcall, hone]
  rfl

end History

end Run

end Telemetry.Events
