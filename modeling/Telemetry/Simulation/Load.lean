import Telemetry.Random.Source

/-!
# The load of a simulation

Several producers record transactions at the same time. What a producer is going to record in
a cycle – its *jobs* – depends on nothing but its own random numbers, so all jobs of a cycle
are drawn ahead. Only whether an event counts as sampled depends on what was recorded before
it; its job has the random draws that this takes.
-/

namespace Telemetry.Simulation

/-- What is simulated. -/
structure Options where
  apps : Nat := 3
  producers : Nat := 4
  cycles : Nat := 5
  eventsPerCycle : Nat := 10000
  /-- The share of synthetic transactions. -/
  syntheticRatio : Float := 0.05
  /-- How likely it is that the collector is down. -/
  failRate : Float := 0.0
  deriving Inhabited

/-- Why options make no simulation. -/
inductive OptionsError
  | nothingToRun
  | badSyntheticRatio
  | badFailRate
  deriving DecidableEq, Repr

/-- The text of the error. -/
def OptionsError.message : OptionsError → String
  | .nothingToRun => "the simulation needs at least one app and one producer"
  | .badSyntheticRatio => "synthetic ratio must be between 0 and 1"
  | .badFailRate => "fail rate must be between 0 and 1"

/-- Whether a number is a probability. -/
def isProbability (x : Float) : Bool := 0.0 ≤ x && x ≤ 1.0

namespace Options

/-- The first thing that is wrong with some options. -/
def fault? (o : Options) : Option OptionsError :=
  if o.apps = 0 || o.producers = 0 then some .nothingToRun
  else if !isProbability o.syntheticRatio then some .badSyntheticRatio
  else if !isProbability o.failRate then some .badFailRate
  else none

/-- The name of a simulated application. -/
def appName (i : Nat) : String := s!"app-{i}"

/-- The names of the simulated applications. -/
def appNames (o : Options) : List String := (List.range o.apps).map appName

/-- How many events each producer records in a cycle: its share, rounded up. -/
def eventsPerProducer (o : Options) : Nat := (o.eventsPerCycle + o.producers - 1) / o.producers

end Options

/-- The names of simulated transactions. -/
def transactionNames : List String :=
  ["WebTransaction/Uri/checkout", "WebTransaction/Uri/cart", "WebTransaction/Uri/login",
    "WebTransaction/Uri/search", "OtherTransaction/Job/reindex"]

/-- One transaction to be recorded. -/
structure Job where
  app : String
  name : String
  duration : Nat
  isSynthetic : Bool
  /-- The random bits for the sampling decision, and for the priority. -/
  decisionDraw : UInt64
  priorityDraw : UInt64
  deriving DecidableEq, Repr

/-- A transaction takes less than this many milliseconds, and one at least. -/
def durationBound : Nat := 2000

/-- Draws a job. -/
def Job.draw (o : Options) (s : Random.Source) : Job × Random.Source :=
  let (app, s) := s.below32 o.apps
  let (name, s) := s.below32 transactionNames.length
  let (duration, s) := s.below64 (durationBound - 1)
  let (isSynthetic, s) := s.chance o.syntheticRatio
  let (decisionDraw, s) := s.next64
  let (priorityDraw, s) := s.next64
  (⟨Options.appName app, transactionNames.getD name "", duration + 1, isSynthetic,
    decisionDraw, priorityDraw⟩, s)

/-- Draws a number of jobs after those drawn already, which stand last first. -/
def drawJobs (o : Options) : Nat → List Job → Random.Source → List Job
  | 0, done, _ => done.reverse
  | n + 1, done, s =>
    let (job, s) := Job.draw o s
    drawJobs o n (job :: done) s

/-- The jobs of each of some producers for a cycle: every producer is seeded by a draw. -/
def cycleJobs (o : Options) : Nat → Random.Source → List (List Job) × Random.Source
  | 0, seeds => ([], seeds)
  | n + 1, seeds =>
    let (seed, seeds) := seeds.next64
    let jobs := drawJobs o o.eventsPerProducer [] (.ofSeed seed)
    let (others, seeds) := cycleJobs o n seeds
    (jobs :: others, seeds)

end Telemetry.Simulation
