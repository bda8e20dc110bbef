import Telemetry.Double.Order
import Telemetry.Sampling.Adaptive
import Telemetry.Sampling.Heap

/-!
# Priority reservoirs

A reservoir keeps at most `capacity` events, those of highest priority. Once it is
full, an offered event replaces the lowest one if its priority is strictly higher
as a number, and is turned away otherwise. Every offer counts as a *try*, also one
that the caller skipped because it could not have succeeded.

| operation | what it does |
|---|---|
| `Reservoir.offer` | keeps the event, turns it away, or – once sealed – refuses to decide |
| `Reservoir.countTry` | counts a try without an event |
| `Reservoir.merge` | takes over the events and the tries of another reservoir |
| `Reservoir.decide` | makes the next sampling decision of the cycle |
| `Reservoir.toList` | the retained events by descending priority, oldest first among equals |

Retained events carry a sequence number, so that of two events of one priority the
later one leaves first. The order in which events leave is `Entry.outlasts`, and
the events are held in a heap for it.
-/

namespace Telemetry.Sampling

/-- Events that carry a sampling priority. -/
class HasPriority (E : Type) where
  /-- The higher the priority, the more likely the event is retained. -/
  priority : E → Float

/-- A retained event, with the priority it was retained for and the place it took
in the order of insertions. -/
structure Entry (E : Type) where
  priority : Float
  seq : Nat
  event : E

/-- Whether `a` leaves no earlier than `b`: the lowest priority leaves first, and of
equal priorities the latest insertion. -/
def Entry.outlasts {E : Type} (a b : Entry E) : Bool :=
  Double.rank b.priority < Double.rank a.priority ∨
    (Double.rank b.priority = Double.rank a.priority ∧ a.seq ≤ b.seq)

/-- The outcome of an offer. An event that is not retained goes back to the caller. -/
inductive Offer (E : Type)
  /-- The event was retained, possibly in place of the lowest one. -/
  | accepted
  /-- The event was turned away; the offer counted as a try. -/
  | rejected (event : E)
  /-- The reservoir is sealed; the offer did not count. -/
  | closed (event : E)
  deriving Repr

/-- Whether the event was retained. -/
def Offer.isAccepted {E : Type} : Offer E → Bool
  | .accepted => true
  | _ => false

theorem Offer.isAccepted_iff {E : Type} (o : Offer E) : o.isAccepted ↔ o = .accepted := by
  cases o <;> simp [isAccepted]

instance {E : Type} (o : Offer E) : Decidable (o = .accepted) :=
  decidable_of_iff _ o.isAccepted_iff

instance {E : Type} : (o : Option (Offer E)) → Decidable (o = some .accepted)
  | none => .isFalse (Option.some_ne_none _).symm
  | some _ => decidable_of_iff _ (Option.some_inj).symm

/-- A bounded container of events with the sampling state of one harvest cycle. -/
structure Reservoir (E : Type) where
  app : String
  service : String
  capacity : Nat
  decidedLast : Nat
  target : Nat
  heap : Array (Entry E)
  nextSeq : Nat
  tries : Nat
  sampled : Nat
  decided : Nat
  isSealed : Bool

instance {E : Type} : Inhabited (Reservoir E) := ⟨⟨"", "", 0, 0, 0, #[], 0, 0, 0, 0, false⟩⟩

namespace Reservoir

variable {E : Type}

/-- An empty reservoir for the events of an application. -/
def empty (app service : String) (capacity decidedLast target : Nat) : Reservoir E :=
  ⟨app, service, capacity, decidedLast, target, #[], 0, 0, 0, 0, false⟩

/-- The number of retained events. -/
def size (r : Reservoir E) : Nat := r.heap.size

/-- Whether nothing is retained. -/
def isEmpty (r : Reservoir E) : Bool := r.size = 0

/-- Whether `capacity` events are retained. -/
def isFull (r : Reservoir E) : Bool := r.capacity ≤ r.size

/-- The lowest retained priority: that of the event to leave first. -/
def minPriority? (r : Reservoir E) : Option Float := r.heap[0]?.map (·.priority)

/-- The retained entries in the order opposite to the one they leave in. -/
def entries (r : Reservoir E) : List (Entry E) := r.heap.toList.mergeSort Entry.outlasts

/-- The retained events by descending priority, oldest first among equals. -/
def toList (r : Reservoir E) : List E := r.entries.map (·.event)

/-- Adds an event that there is room for. -/
def append (r : Reservoir E) (priority : Float) (event : E) : Reservoir E :=
  { r with
    heap := Heap.push Entry.outlasts r.heap ⟨priority, r.nextSeq, event⟩
    nextSeq := r.nextSeq + 1 }

/-- Drops the event that is first to leave. -/
def evict (r : Reservoir E) : Reservoir E :=
  match Heap.pop? Entry.outlasts r.heap with
  | some (_, rest) => { r with heap := rest }
  | none => r

/-- Whether an event of the given priority would outrank the lowest retained one. -/
def outranksLowest (r : Reservoir E) (priority : Float) : Bool :=
  r.minPriority?.any fun lowest => Double.level lowest < Double.level priority

/-- Inserts an event without counting a try. The event comes back if there is no place for it. -/
def insert (r : Reservoir E) (priority : Float) (event : E) : Option E × Reservoir E :=
  if r.isFull then
    if r.outranksLowest priority then (none, r.evict.append priority event) else (some event, r)
  else (none, r.append priority event)

/-- **Offers an event**, whose priority has been asked for already. A sealed
reservoir leaves the decision to the reservoir that took its place; any other
counts the try, and never retains a priority that is no number. -/
def offer (r : Reservoir E) (priority : Float) (event : E) : Offer E × Reservoir E :=
  if r.isSealed then (.closed event, r)
  else
    let r := { r with tries := r.tries + 1 }
    if Double.isNumber priority then
      let (returned, r) := r.insert priority event
      (returned.elim .accepted .rejected, r)
    else (.rejected event, r)

/-- Whether an event of the given priority would be retained now. -/
def wouldAccept (r : Reservoir E) (priority : Float) : Bool :=
  Double.isNumber priority && (!r.isFull || r.outranksLowest priority)

/-- Counts a try without an event; `false` if the reservoir is sealed. -/
def countTry (r : Reservoir E) : Bool × Reservoir E :=
  if r.isSealed then (false, r) else (true, { r with tries := r.tries + 1 })

/-- What the next sampling decision looks at. -/
def progress (r : Reservoir E) : Progress := ⟨r.decidedLast, r.target, r.sampled, r.decided⟩

/-- Makes the next sampling decision of the cycle for a random number in `[0, 1)`. -/
def decide (r : Reservoir E) (random : Float) : Bool × Reservoir E :=
  let yes := isSampled r.progress random
  (yes, { r with
    decided := r.decided + 1
    sampled := if yes then r.sampled + 1 else r.sampled })

/-- The reservoir, taking no more events from now on. -/
def sealed (r : Reservoir E) : Reservoir E := { r with isSealed := true }

/-- Inserts entries one after the other; those that do not fit are dropped. -/
def insertAll (r : Reservoir E) (entries : List (Entry E)) : Reservoir E :=
  entries.foldl (fun r e => (r.insert e.priority e.event).2) r

/-- **Merges** the events of `other` into `r`, in the order of its heap array. Merged
events are no tries of their own: the tries of `other` are added instead. -/
def merge (r other : Reservoir E) : Reservoir E :=
  { r with tries := r.tries + other.tries }.insertAll other.heap.toList

/-- A reservoir whose events and tries have been merged elsewhere. -/
def drained (r : Reservoir E) : Reservoir E := { r with heap := #[], tries := 0 }

/-- Removes all events and resets all counters; sequence numbers go on. -/
def clear (r : Reservoir E) : Reservoir E :=
  { r with heap := #[], tries := 0, sampled := 0, decided := 0 }

end Reservoir

/-- The decisions of the cycle before, as seen by the reservoir that follows
`previous`: its tries, or none. -/
def decidedLastOf {E : Type} (previous : Option (Reservoir E)) : Nat :=
  previous.elim 0 (·.tries)

end Telemetry.Sampling
