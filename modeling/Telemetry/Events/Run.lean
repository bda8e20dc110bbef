import Telemetry.Events.Step

/-!
# Runs of the service

Recording and harvesting stop in the middle whenever something else may run: while an
event is built or tells its priority, and while a batch is being sent. A `Run` keeps what
is still to be done as a stack of *frames*, so every state in which other steps can find
the service is a state of the run. `Run.step` resumes the topmost frame.

| frame | resumes with |
|---|---|
| `Frame.steps` | the next of some steps |
| `Frame.asked` | the event of a record, whose priority has been asked |
| `Frame.built` | the event of a record, just built |
| `Frame.offer` | the offer of an event that has told its priority |
| `Frame.compete` | another round for the live reservoir |
| `Frame.drain` | the next batch of the backlog |
| `Frame.settleSynthetic`, `Frame.settleOrdinary` | the outcome of a send |
| `Frame.ordinary` | the ordinary half of a harvest |
| `Frame.foreground` | the end of work in the background |

## Recording

The event competes for the live reservoir of its application. If it could not be
retained, only a try is counted and it is not even built. Otherwise it is built and
offered. If a harvest has sealed the reservoir in the meantime, the event competes for
the one that took its place. A synthetic event is built at once and competes for the
synthetic reservoir first; only if that rejects it, it competes with ordinary events.

## Harvesting

The live synthetic reservoir is swapped out and queued, and waiting batches are sent up
to a budget, oldest first. Then the live ordinary reservoir is swapped out and sent. A
failed batch goes back to where the events of the next harvest are – unless the failure
was a lasting one.
-/

namespace Telemetry.Events

open Sampling (HasPriority Offer)

variable {E P S : Type}

/-- An event on its way into a reservoir. -/
structure Job (E P : Type) where
  work : Work E
  /-- The steps that run while the event is built; `none` once it is. -/
  onBuild : Option (List (Step E P))
  /-- The steps that run while the built event tells its priority, the next time first. -/
  onPriority : List (List (Step E P))

/-- The job, going on with an event that has come back to it. -/
def Job.withEvent (j : Job E P) (event : E) : Job E P := { j with work := { j.work with event } }

/-- Whether the event of a job has been built. -/
def Job.isBuilt (j : Job E P) : Bool := j.onBuild.isNone

/-- A batch that is being sent: the reservoir it comes from, what was sent of it, and
what the answer will be. -/
structure Flight (E : Type) where
  ref : Ref
  batch : Batch E
  outcome : Outcome

/-- Something still to be done. -/
inductive Frame (E P : Type)
  | steps (rest : List (Step E P))
  | asked (app : String) (job : Job E P)
  | compete (kind : Kind) (app : String) (job : Job E P)
  /-- The names are shared in the cache of the given version. The event goes to the given
  reservoir, or else to the live synthetic one. -/
  | built (app : String) (job : Job E P) (namesVersion : Nat) (goal : Option Ref)
  | offer (kind : Kind) (app : String) (job : Job E P) (ref : Ref)
  | drain (app : String) (budget : Nat)
  | settleSynthetic (app : String) (budget : Nat) (flight : Flight E)
  | ordinary (app : String)
  | settleOrdinary (app : String) (flight : Flight E)
  | foreground (wasBackground : Bool)

/-- The answer of a step. -/
inductive Answer
  | none
  /-- Whether the event of a record was built. -/
  | built (yes : Bool)
  | priority (x : Float)
  | enabled (yes : Bool)
  | reservoir (ref : Ref)
  deriving Repr, DecidableEq

/-- What probes do: to the observer's own state, to the service, and to the journal. -/
structure Observer (E P S : Type) where
  act : P → S → Service E → S × Service E × List (Note E)

/-- The observer without probes. -/
def Observer.idle (E : Type) : Observer E Empty Unit := ⟨fun p => nomatch p⟩

/-- A run: the service and the transport, what is still to be done, and what has come of it
so far. -/
structure Run (E P S : Type) where
  service : Service E
  transport : Transport E P := {}
  stack : List (Frame E P) := []
  /-- The notes so far, latest first. -/
  notes : List (Note E) := []
  /-- Where priorities are drawn from. -/
  random : Random.Source
  /-- How many events with a drawn priority have been numbered. -/
  numbered : Nat := 0
  /-- The priority drawn last. -/
  lastDrawn : Float := 0.0
  /-- The answer of the step finished last. -/
  answer : Answer := .none
  inBackground : Bool := false
  observed : S

/-- The part of the program that the records of a harvest come from. -/
def harvestSource : String := "harvest_events::harvest"

namespace Run

/-- Puts a frame on the stack. -/
def push (r : Run E P S) (f : Frame E P) : Run E P S := { r with stack := f :: r.stack }

/-- First runs some steps, then resumes a frame. -/
def within (r : Run E P S) (steps : List (Step E P)) (f : Frame E P) : Run E P S :=
  (r.push f).push (.steps steps)

/-- Adds a note to the journal, unless it is out of sight. -/
def note (r : Run E P S) (n : Note E) : Run E P S :=
  if r.inBackground && !n.isPublic then r else { r with notes := n :: r.notes }

/-- Adds notes to the journal. -/
def noteAll (r : Run E P S) (ns : List (Note E)) : Run E P S := ns.foldl note r

/-- Logs a record. -/
def log (r : Run E P S) (severity : Log.Severity) (source message : String)
    (fields : List (String × Log.FieldValue)) : Run E P S :=
  r.note (.record ⟨severity, source, message, fields⟩)

/-- Replaces the service. -/
def withService (r : Run E P S) (s : Service E) : Run E P S := { r with service := s }

/-- Sets the answer of a step. -/
def withAnswer (r : Run E P S) (a : Answer) : Run E P S := { r with answer := a }

/-- Takes up what an operation of the service made of it, and its notes. -/
def absorb (r : Run E P S) (result : Service E × List (Note E)) : Run E P S :=
  (r.withService result.1).noteAll result.2

/-- Ends a record. -/
def finish (r : Run E P S) (job : Job E P) : Run E P S := r.withAnswer (.built job.isBuilt)

/-! ### Recording -/

section Record

variable [HasPriority E]

/-- Offers the event of a job to a reservoir. -/
def offerTo (r : Run E P S) (kind : Kind) (app : String) (job : Job E P) (ref : Ref) :
    Run E P S :=
  let (decision, s) := r.service.offer ref (HasPriority.priority job.work.event) job.work.event
  let r := r.withService s
  match decision, kind with
  | .accepted, .synthetic =>
    (r.log .trace serviceSource "added synthetic transaction event" [("app", .text app)]).finish job
  | .accepted, .ordinary => r.finish job
  | .rejected event, .synthetic => r.push (.compete .ordinary app (job.withEvent event))
  | .rejected _, .ordinary => r.finish job
  | .closed event, kind => r.push (.compete kind app (job.withEvent event))

/-- Offers a built event to a reservoir, for which it has to tell its priority. -/
def submit (r : Run E P S) (kind : Kind) (app : String) (job : Job E P) (ref : Ref) :
    Run E P S :=
  match job.onPriority with
  | steps :: later => r.within steps (.offer kind app { job with onPriority := later } ref)
  | [] => r.offerTo kind app job ref

/-- One round of a record for the live reservoir. -/
def compete (r : Run E P S) (kind : Kind) (app : String) (job : Job E P) : Run E P S :=
  let (ref, s) := r.service.getOrCreate kind app
  let r := r.withService s
  match kind with
  | .synthetic => r.submit .synthetic app job ref
  | .ordinary =>
    if (s.reservoir ref).wouldAccept job.work.priority then
      match job.onBuild with
      | some steps => r.within steps (.built app job s.namesVersion (some ref))
      | none => r.submit .ordinary app job ref
    else
      let (counted, s) := s.countTry ref
      let r := r.withService s
      -- a sealed reservoir has been swapped out: the try counts for the next one
      if counted then r.finish job else r.push (.compete .ordinary app job)

/-- The event of a job is built: its name is shared, and it goes on to its goal. -/
def afterBuild (r : Run E P S) (app : String) (job : Job E P) (namesVersion : Nat)
    (goal : Option Ref) : Run E P S :=
  let r := r.withService (r.service.internAt namesVersion job.work.name)
  let job := { job with onBuild := none }
  match goal with
  | some ref => r.submit .ordinary app job ref
  | none => r.compete .synthetic app job

/-- Goes on with a record once the priority is known: a synthetic event is built at once,
an ordinary one competes first. -/
def afterAsk (r : Run E P S) (app : String) (job : Job E P) : Run E P S :=
  if job.work.isSynthetic then
    r.within (job.onBuild.getD []) (.built app job r.service.namesVersion none)
  else r.compete .ordinary app job

/-- Starts to record an event. -/
def record (r : Run E P S) (app : String) (work : Work E) (onAsk onBuild : List (Step E P))
    (onPriority : List (List (Step E P))) : Run E P S :=
  let job : Job E P := ⟨work, some onBuild, onPriority⟩
  if !r.service.isActive then r.finish job
  else
    let (enabled, s) := r.service.askEnabled app
    if !enabled then (r.withService (s.removeOrdinary app)).finish job
    else (r.withService s).within onAsk (.asked app job)

end Record

/-- Draws the priority of the next event of an application. -/
def drawPriority (r : Run E P S) (app : String) : Run E P S :=
  let (random, source) := r.random.unit
  let (sampled, s) := r.service.decideNext app random
  let (priority, source) := Sampling.drawPriority sampled source
  { r with service := s, random := source, lastDrawn := priority, answer := .priority priority }

/-! ### Harvesting -/

/-- The batch of a reservoir is being sent: the attempt is noted, and the steps inside the
send come first. -/
def send (r : Run E P S) (kind : Kind) (ref : Ref) (settle : Flight E → Frame E P) : Run E P S :=
  let batch := r.service.batch ref
  let (reply, transport) := r.transport.send batch
  ({ r with transport := transport }.note (.attempt kind batch reply.outcome)).within reply.during
    (settle ⟨ref, batch, reply.outcome⟩)

/-- The tag of an application. -/
def appTag (app : String) : String × String := ("app", app)

/-- The tags of an application and a kind. -/
def kindTags (app : String) (kind : Kind) : List (String × String) :=
  [appTag app, ("kind", kind.name)]

/-- Logs that a batch could not be sent. -/
def logUnsent (r : Run E P S) (app message : String) (error : TransmitError) : Run E P S :=
  r.log .debug harvestSource message [("app", .text app), ("error", .shown error.message)]

/-- Queues a harvested synthetic reservoir, or drops it if the backlog is full. -/
def enqueue (r : Run E P S) (app : String) (ref : Ref) : Run E P S :=
  match r.service.backlog.push ref with
  | .ok backlog => r.withService { r.service with backlog := backlog }
  | .error error =>
    (r.log .warn harvestSource "some synthetic transaction events were discarded"
      [("app", .text app), ("error", .shown error.message)]).note
      (.counted "events.synthetics.dropped" 1 [appTag app])

/-- Starts a harvest: the live synthetic reservoir is swapped out and queued, and the
backlog is to be drained. -/
def harvest (r : Run E P S) (app : String) : Run E P S :=
  let r := r.withAnswer .none
  if !r.service.isActive then r
  else
    let (swapped, s) := r.service.swapOut .synthetic app
    let r := r.withService s
    let r := match swapped with
      | some ref => if (s.reservoir ref).isEmpty then r else r.enqueue app ref
      | none => r
    r.push (.drain app r.service.settings.harvest.synthetics.maxBatchesPerHarvest)

/-- Ends the synthetic half of a harvest. -/
def endDrain (r : Run E P S) (app : String) : Run E P S :=
  (r.note (.gauged "events.synthetics.pending" r.service.backlog.size [])).push (.ordinary app)

/-- Sends the oldest waiting batch, if the budget allows. -/
def drain (r : Run E P S) (app : String) (budget : Nat) : Run E P S :=
  match budget, r.service.backlog.pop? with
  | budget + 1, some (ref, backlog) =>
    (r.withService { r.service with backlog := backlog }).send .synthetic ref
      (.settleSynthetic app budget)
  | _, _ => r.endDrain app

/-- Puts a synthetic batch back in front of the backlog. -/
def requeue (r : Run E P S) (ref : Ref) : Run E P S :=
  let (dropped, backlog) := r.service.backlog.requeue ref
  let r := r.withService { r.service with backlog := backlog }
  match dropped with
  | some ref =>
    let app := (r.service.reservoir ref).app
    (r.log .warn harvestSource
      "synthetic backlog overflowed, some synthetic transaction events were discarded"
      [("app", .text app)]).note (.counted "events.synthetics.dropped" 1 [appTag app])
  | none => r

/-- The outcome of sending a waiting batch. It was sent for the application that produced
it, which need not be the one whose harvest this is. A failure ends the drain. -/
def settleSynthetic (r : Run E P S) (app : String) (budget : Nat) (flight : Flight E) :
    Run E P S :=
  let r := r.note (.settled .synthetic flight.batch flight.outcome)
  let owner := flight.batch.app
  match flight.outcome with
  | none =>
    (r.note (.counted "events.synthetics.sent" flight.batch.events.length [appTag owner])).push
      (.drain app budget)
  | some error =>
    if error.isTransient then
      let r := r.logUnsent owner
        "unable to send events for synthetic transactions, unsent events will be included in the next harvest"
        error
      let r := r.note (.counted "events.harvest.retried" 1 (kindTags owner .synthetic))
      (r.requeue flight.ref).endDrain app
    else
      let r := r.logUnsent owner
        "unable to send events for synthetic transactions, unsent events will be dropped" error
      (r.note (.counted "events.harvest.discarded" 1 (kindTags owner .synthetic))).endDrain app

/-- The ordinary half of a harvest: the live reservoir is swapped out and, if it holds
anything, sent. -/
def harvestOrdinary (r : Run E P S) (app : String) : Run E P S :=
  let (enabled, s) := r.service.askEnabled app
  if !enabled then r.withService (s.removeOrdinary app)
  else
    let (swapped, s) := s.swapOut .ordinary app
    let r := r.withService s
    match swapped with
    | none => r
    | some ref =>
      if (s.reservoir ref).isEmpty then r
      else
        (r.note (.gauged "events.harvest.limit" (s.reservoir ref).capacity [appTag app])).send
          .ordinary ref (.settleOrdinary app)

/-- Whether a failed ordinary batch is kept for another attempt. -/
def isRetried (error : TransmitError) (policy : Config.UnexpectedErrorPolicy) : Bool :=
  match error, policy with
  | .transient _, _ => true
  | .permanent _, _ => false
  | .unexpected _, .retry => true
  | .unexpected _, .discard => false

/-- The outcome of sending an ordinary batch. A batch to be retried is merged into the live
reservoir, where its events compete with those recorded since. -/
def settleOrdinary (r : Run E P S) (app : String) (flight : Flight E) : Run E P S :=
  let r := r.note (.settled .ordinary flight.batch flight.outcome)
  match flight.outcome with
  | none =>
    let sent := flight.batch.events.length
    let seen := (r.service.reservoir flight.ref).tries
    (((r.note (.sample ⟨"events.harvest.transmit", .elapsed, [appTag app]⟩)).note
      (.counted "events.transaction.sent" sent [appTag app])).note
      (.counted "events.transaction.seen" seen [appTag app])).log
      .debug harvestSource "sent transaction events"
      [("app", .text app), ("sent", .count sent), ("seen", .count seen)]
  | some error =>
    if isRetried error r.service.settings.harvest.unexpectedErrors then
      let r := r.logUnsent app
        "unable to send events for regular transactions, data for this harvest will be resampled and retried"
        error
      let (live, s) := r.service.getOrCreate .ordinary app
      (r.withService (s.mergeInto live flight.ref)).note
        (.counted "events.harvest.retried" 1 (kindTags app .ordinary))
    else
      let r := r.logUnsent app
        "unable to send events for regular transactions, data for this harvest will be dropped"
        error
      (r.withService (r.service.modify flight.ref (·.clear))).note
        (.counted "events.harvest.discarded" 1 (kindTags app .ordinary))

/-! ### Steps -/

section Step

variable [HasPriority E]

/-- Starts a step. -/
def start (observer : Observer E P S) (r : Run E P S) : Step E P → Run E P S
  | .recordWith app work onAsk onBuild onPriority =>
    r.record app work onAsk onBuild onPriority
  | .recordDrawn app make =>
    let r := r.drawPriority app
    let n := r.numbered + 1
    { r with numbered := n }.record app (make n r.lastDrawn) [] [] []
  | .drawPriority app => r.drawPriority app
  | .harvest app => r.harvest app
  | .change change => (r.absorb (r.service.change change)).withAnswer .none
  | .setCapacity n => (r.absorb (r.service.setCapacity n)).withAnswer .none
  | .getOrCreate app =>
    let (ref, s) := r.service.getOrCreate .ordinary app
    (r.withService s).withAnswer (.reservoir ref)
  | .clear => (r.withService r.service.clearOrdinary).withAnswer .none
  | .shutDown => (r.absorb r.service.shutDown).withAnswer .none
  | .askEnabled app =>
    let (enabled, s) := r.service.askEnabled app
    (r.withService s).withAnswer (.enabled enabled)
  | .background steps =>
    { r with inBackground := true }.within steps (.foreground r.inBackground)
  | .probe p =>
    let (observed, s, notes) := observer.act p r.observed r.service
    { r with observed := observed }.absorb (s, notes) |>.withAnswer .none

/-- Resumes a frame that has been taken off the stack. -/
def resume (observer : Observer E P S) (r : Run E P S) : Frame E P → Run E P S
  | .steps [] => r
  | .steps (s :: rest) => (r.push (.steps rest)).start observer s
  | .asked app job => r.afterAsk app job
  | .compete kind app job => r.compete kind app job
  | .built app job namesVersion goal => r.afterBuild app job namesVersion goal
  | .offer kind app job ref => r.offerTo kind app job ref
  | .drain app budget => r.drain app budget
  | .settleSynthetic app budget flight => r.settleSynthetic app budget flight
  | .ordinary app => r.harvestOrdinary app
  | .settleOrdinary app flight => r.settleOrdinary app flight
  | .foreground wasBackground => { r with inBackground := wasBackground }

/-- **One step of a run**; none once nothing is left to be done. -/
def step (observer : Observer E P S) (r : Run E P S) : Option (Run E P S) :=
  match r.stack with
  | [] => none
  | f :: rest => some ({ r with stack := rest }.resume observer f)

/-- A number of steps of a run, or fewer if it ends before. -/
def advance (observer : Observer E P S) : Nat → Run E P S → Run E P S
  | 0, r => r
  | n + 1, r =>
    match r.step observer with
    | none => r
    | some r => advance observer n r

end Step

/-! ### The end of a run -/

/-- The weight of a job. -/
def jobWeight (job : Job E P) : Nat :=
  (job.onBuild.map fun steps => 6 + Step.totalWeight steps).getD 0 + Step.turnsWeight job.onPriority

/-- The weight of a frame: how many steps of the run it can still give rise to. -/
def frameWeight : Frame E P → Nat
  | .steps rest => 1 + Step.totalWeight rest
  | .asked _ job => 3 + jobWeight job
  | .compete .ordinary _ job => 2 + jobWeight job
  | .compete .synthetic _ job => 3 + jobWeight job
  | .built _ job _ _ => 5 + jobWeight { job with onBuild := none }
  | .offer _ _ job _ => 4 + jobWeight job
  | .drain .. => 6
  | .settleSynthetic .. => batchWeight + 4
  | .ordinary _ => 3
  | .settleOrdinary .. => 1
  | .foreground _ => 1

/-- The work ahead of a run: in its frames, in the sends to come, and in the backlog. -/
def weight (r : Run E P S) : Nat :=
  r.stack.foldr (fun frame n => frameWeight frame + n) 0 + r.transport.weight +
    batchWeight * r.service.backlog.size

/-- Runs to the end: the weight bounds how many steps that takes. -/
def complete [HasPriority E] (observer : Observer E P S) (r : Run E P S) : Run E P S :=
  r.advance observer (r.weight + 1)

/-- Runs a step to its end. -/
def perform [HasPriority E] (observer : Observer E P S) (r : Run E P S) (s : Step E P) :
    Run E P S :=
  (r.push (.steps [s])).complete observer

/-- The notes so far, earliest first. -/
def journal (r : Run E P S) : List (Note E) := r.notes.reverse

/-- The run with an empty journal. -/
def withoutNotes (r : Run E P S) : Run E P S := { r with notes := [] }

end Run

end Telemetry.Events
