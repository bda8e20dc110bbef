/-!
# The backlog of unsent synthetic batches

A bounded queue that all applications share. After an outage it is drained a few
batches at a time. A batch whose transmission failed goes back **to the front**, so
batches keep the order in which they arrived; if others have filled the queue in the
meantime, the newest one is dropped for it.
-/

namespace Telemetry.Events

/-- The waiting batches, oldest first, and how many may wait. A lowered capacity
drops nothing. -/
structure Backlog (β : Type) where
  queue : List β := []
  capacity : Nat

/-- Why a batch is not queued. -/
inductive BacklogError
  | full (capacity : Nat)
  deriving DecidableEq, Repr

/-- The text of the error. -/
def BacklogError.message : BacklogError → String
  | .full capacity => s!"synthetic backlog is full ({capacity} pending batches)"

namespace Backlog

variable {β : Type}

/-- The number of waiting batches. -/
def size (b : Backlog β) : Nat := b.queue.length

/-- Appends a batch, unless the queue is full. -/
def push (b : Backlog β) (batch : β) : Except BacklogError (Backlog β) :=
  if b.capacity ≤ b.size then .error (.full b.capacity)
  else .ok { b with queue := b.queue ++ [batch] }

/-- Takes the oldest batch. -/
def pop? (b : Backlog β) : Option (β × Backlog β) :=
  match b.queue with
  | [] => none
  | batch :: rest => some (batch, { b with queue := rest })

/-- Puts a batch back in front. The newest batch is dropped if more than the capacity
now wait, except that the batch put back is never the one. -/
def requeue (b : Backlog β) (batch : β) : Option β × Backlog β :=
  let queue := batch :: b.queue
  if max b.capacity 1 < queue.length then
    (queue.getLast?, { b with queue := queue.dropLast })
  else (none, { b with queue := queue })

/-- Changes the capacity. -/
def withCapacity (b : Backlog β) (capacity : Nat) : Backlog β := { b with capacity := capacity }

end Backlog

end Telemetry.Events
