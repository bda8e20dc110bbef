import Telemetry.Events.Service
import Telemetry.Events.Transmitter

/-!
# What can be asked of a service

A `Step` is one call to the service. Calls nest: while an event is built, while it is
asked for its priority, and while a batch is being sent, the program around the service
may call it again. A step therefore carries the steps that run inside its callbacks, and
a transport carries those that run inside its sends.

Besides the calls proper there are *probes*, of a type `P` left open here: whatever an
observer does to the service from outside, all at once.
-/

namespace Telemetry.Events

variable {E P : Type}

/-- An event that may become part of a reservoir. Building it is put off until it is known
that it can be retained, so its priority is known beforehand. -/
structure Work (E : Type) where
  /-- What is built. -/
  event : E
  /-- The transaction name that is shared when the event is built. -/
  name : String
  /-- The priority that the event will carry. -/
  priority : Float
  isSynthetic : Bool

/-- One call to the service, with the steps that run inside its callbacks. -/
inductive Step (E P : Type) where
  /-- Records an event. The steps `onAsk` run while the priority is asked that the event
  will carry, and `onBuild` while it is built; each time the built event is asked for its
  priority, the next list of `onPriority` runs. -/
  | recordWith (app : String) (work : Work E) (onAsk onBuild : List (Step E P))
      (onPriority : List (List (Step E P)))
  /-- Draws the priority of the next event of an application, and records that event. The
  events made like this are numbered from 1 on. -/
  | recordDrawn (app : String) (make : Nat → Float → Work E)
  /-- Draws the priority of the next event of an application. -/
  | drawPriority (app : String)
  /-- Runs one harvest of an application. -/
  | harvest (app : String)
  | change (change : ConfigChange)
  | setCapacity (n : Nat)
  | getOrCreate (app : String)
  /-- Takes all live ordinary reservoirs away. -/
  | clear
  | shutDown
  | askEnabled (app : String)
  /-- Runs steps elsewhere: what they measure and log is not seen here. -/
  | background (steps : List (Step E P))
  | probe (probe : P)

/-- Records an event, where steps run while it is built and when the built event is asked
for its priority the first time. -/
def Step.record (app : String) (work : Work E) (onBuild onPriority : List (Step E P)) :
    Step E P :=
  .recordWith app work [] onBuild [onPriority]

/-- What a send answers, and what runs inside it. -/
structure Reply (E P : Type) where
  outcome : Outcome
  during : List (Step E P) := []

/-- What a transport does once its planned replies have been used up. -/
inductive Habit (E : Type)
  | always (outcome : Outcome)
  /-- Hands the batches to a transmitter. -/
  | transmitting (transmitter : Transmitter E)

/-- A transport: its planned replies, and its habit afterwards. -/
structure Transport (E P : Type) where
  planned : List (Reply E P) := []
  habit : Habit E := .always none

/-- The outcome of sending a batch out of habit. -/
def Habit.send : Habit E → Batch E → Outcome × Habit E
  | .always outcome, _ => (outcome, .always outcome)
  | .transmitting transmitter, batch =>
    let (outcome, transmitter) := transmitter.send batch
    (outcome, .transmitting transmitter)

/-- The reply to the send of a batch. -/
def Transport.send (t : Transport E P) (batch : Batch E) : Reply E P × Transport E P :=
  match t.planned with
  | reply :: rest => (reply, { t with planned := rest })
  | [] =>
    let (outcome, habit) := t.habit.send batch
    (⟨outcome, []⟩, { t with habit := habit })

/-- What a transport has written: nothing, unless it has a transmitter. -/
def Transport.output (t : Transport E P) : Output :=
  match t.habit with
  | .always _ => {}
  | .transmitting transmitter => transmitter.output

/-! ### How much work is still ahead

Every step of a run takes something off the work that is planned, and the following
weights say how much there is. A harvest may add a batch to the backlog, and a batch
waiting there is work as well. -/

/-- The weight of a batch that waits in the backlog. -/
def batchWeight : Nat := 4

/-- The weight of a harvest: the batch it may add, its drain, and its ordinary half. -/
def harvestWeight : Nat := batchWeight + 8

mutual

/-- The weight of a step, with the steps inside it. -/
def Step.weight : Step E P → Nat
  | .recordWith _ _ onAsk onBuild onPriority =>
    12 + Step.totalWeight onAsk + Step.totalWeight onBuild + Step.turnsWeight onPriority
  | .recordDrawn .. => 14
  | .harvest _ => harvestWeight
  | .background steps => 4 + Step.totalWeight steps
  | _ => 2

/-- The weight of several steps. -/
def Step.totalWeight : List (Step E P) → Nat
  | [] => 0
  | s :: rest => s.weight + Step.totalWeight rest

/-- The weight of lists of steps of which each has its turn. -/
def Step.turnsWeight : List (List (Step E P)) → Nat
  | [] => 0
  | steps :: rest => 4 + Step.totalWeight steps + Step.turnsWeight rest

end

/-- The weight of the steps inside the planned replies. -/
def Transport.weight (t : Transport E P) : Nat :=
  t.planned.foldr (fun r n => Step.totalWeight r.during + 1 + n) 0

end Telemetry.Events
