import Telemetry.Events.Run
import Telemetry.Simulation.Event
import Telemetry.Simulation.Load

/-!
# Running a simulation

In each cycle the producers record their transactions, and then every application is
harvested. The producers run side by side, so their jobs are recorded in some order that
keeps each producer's own; a simulation is given that order, cycle by cycle
(`Interleaving`).

Batches are sent through the transmitter of the run, which has written them and counted them in
the end. What is sent and logged is in the journal of the run, in the order in which it happened.
-/

namespace Telemetry.Simulation

open Events (Note OutputFault Service)

/-- The order in which the jobs of several producers are recorded in a cycle. -/
abbrev Interleaving := Nat → List (List Job) → List Job

/-- One producer after the other. -/
def oneByOne : Interleaving := fun _ jobs => jobs.flatten

/-- A run of the service that nothing else interferes with. -/
abbrev Run := Events.Run Event Empty Unit

/-- The part of the program that the records of a simulation come from. -/
def source : String := "harvest::simulate"

/-- The event of a job. -/
def Job.work (j : Job) (priority : Float) : Events.Work Event :=
  ⟨⟨j.name, j.duration, priority, j.isSynthetic⟩, j.name, priority, j.isSynthetic⟩

/-- Records a job. -/
def recordJob (r : Run) (j : Job) : Run :=
  { r with random := .ofDraws [j.decisionDraw, j.priorityDraw] }.perform (.idle Event)
    (.recordDrawn j.app fun _ => j.work)

/-- Harvests an application. -/
def harvestApp (r : Run) (app : String) : Run := r.perform (.idle Event) (.harvest app)

/-- The result of a simulation. -/
structure Summary where
  /-- How many batches were sent. -/
  batches : Nat
  /-- How many events they held. -/
  events : Nat
  /-- How many batches are still waiting. -/
  pending : Nat
  deriving DecidableEq, Repr

/-- The summary of a run: the counts of its transmitter, and what is left in the backlog. -/
def summarize (r : Run) : Summary :=
  let output := r.transport.output
  ⟨output.batches, output.events, r.service.backlog.size⟩

/-- Runs a cycle. -/
def runCycle (o : Options) (order : Interleaving) (cycle : Nat)
    (state : Run × Random.Source) : Run × Random.Source :=
  let (r, seeds) := state
  let (jobs, seeds) := cycleJobs o o.producers seeds
  let r := o.appNames.foldl harvestApp ((order cycle jobs).foldl recordJob r)
  let s := summarize r
  (r.log .debug source "finished harvest cycle"
    [("cycle", .count cycle), ("batches", .count s.batches), ("pending", .count s.pending)], seeds)

/-- The run before the first cycle, and the source that producers are seeded from. The
transmitter, whose output may have a fault, has a source of its own. -/
def start (settings : Config.Settings) (o : Options) (seed : UInt64)
    (fault : Option OutputFault := none) : Run × Random.Source :=
  let seeds := Random.Source.ofSeed seed
  let (transmitterSeed, seeds) := seeds.next64
  let (service, created) := Service.create settings
  ({ service := service
     transport := { habit := .transmitting (transmitter o.failRate transmitterSeed fault) }
     notes := created.reverse
     random := .ofSeed 0
     observed := () }, seeds)

/-- The run after all cycles. -/
def runCycles (settings : Config.Settings) (o : Options) (seed : UInt64) (order : Interleaving)
    (fault : Option OutputFault := none) : Run :=
  ((List.range o.cycles).foldl (fun state cycle => runCycle o order cycle state)
    (start settings o seed fault)).1

/-- The line that a note tells of: that of a batch that was taken. -/
def lineOf? : Note Event → Option String
  | .attempt _ batch none => some (batchLine batch)
  | _ => none

/-- A finished simulation. -/
structure Report where
  summary : Summary
  /-- What has been written. -/
  output : String
  /-- What happened, in order. -/
  journal : List (Note Event)

/-- The lines that a simulation has written, each of which ends with a break. -/
def Report.lines (r : Report) : List String :=
  ((r.output.split '\n').toList.map (·.copy)).dropLast

/-- **Simulates** a service of some settings. -/
def simulate (settings : Config.Settings) (o : Options) (seed : UInt64) (order : Interleaving)
    (fault : Option OutputFault := none) : Except OptionsError Report :=
  match o.fault? with
  | some e => .error e
  | none =>
    let r := runCycles settings o seed order fault
    let finished := r.perform (.idle Event) .shutDown
    .ok ⟨summarize r, finished.transport.output.text, finished.journal⟩

end Telemetry.Simulation
