import Telemetry.Double.Order
import Telemetry.Log.Record
import Telemetry.Metrics.Address
import Telemetry.Metrics.Line
import Telemetry.Random.Source

/-!
# Clients of the metrics server

One client at a time is *installed* for the whole program. A thread looks for it when it
first has something to report, and then keeps what it found: a client installed or removed
elsewhere later makes no difference to it. Only installing a client changes what the
installing thread itself has.

Clients in this model write to a sink: to the server, to a list that captures what is
reported while something runs, or to a sink that always fails.
-/

namespace Telemetry.Metrics

/-- Where the lines of a client go. -/
inductive Sink
  | server
  /-- Into the capture of the given number. -/
  | capture (number : Nat)
  /-- Nowhere: every attempt fails with a message. -/
  | failing (message : String)
  deriving DecidableEq, Repr

/-- A client: how it names and tags its samples, how many of them it sends, and where. -/
structure Client where
  stem : String
  defaultTags : Dict String
  rate : Float
  sink : Sink

/-- A client that sends a share of its samples. -/
def Client.create (stem : String) (defaultTags : Dict String) (rate : Float) (sink : Sink) :
    Client :=
  ⟨stem, defaultTags, Double.clampToUnit rate, sink⟩

/-- The state of reporting, as one thread sees it. -/
structure Reporting where
  /-- The client of the program. -/
  installed : Option Client := none
  /-- The client that this thread has found, once it has looked. -/
  found : Option (Option Client) := none
  /-- Lines that the server has received, latest first. -/
  received : List String := []
  /-- Lines of each capture, latest first. -/
  captures : List (List String) := []
  /-- Where the choice of the samples to send is drawn from. -/
  random : Random.Source := .ofSeed 0
  /-- What this thread has logged, latest first. -/
  logged : List Log.Record := []

/-- How many lines may wait to be sent. -/
def queueCapacity : Nat := 100000

namespace Reporting

/-- The part of the program that the records of reporting come from. -/
def source : String := "harvest_statsd"

/-- The client of this thread, looked for if this is the first time. -/
def client (r : Reporting) : Option Client × Reporting :=
  match r.found with
  | some c => (c, r)
  | none => (r.installed, { r with found := some r.installed })

/-- Whether a sample is sent at a rate. Only a rate in between draws. -/
def isChosen (r : Reporting) (rate : Float) : Bool × Reporting :=
  if rate ≤ 0.0 then (false, r)
  else if 1.0 ≤ rate then (true, r)
  else
    let (draw, random) := r.random.unit
    (draw ≤ rate, { r with random := random })

/-- Writes a line to a sink. -/
def write (r : Reporting) (sink : Sink) (line : String) : Reporting :=
  match sink with
  | .server => { r with received := line :: r.received }
  | .capture n => { r with captures := r.captures.modify n (line :: ·) }
  | .failing message =>
    { r with logged := ⟨.error, source, "error sending a metric",
        [("error", .shown message), ("maximum_capacity", .count queueCapacity)]⟩ :: r.logged }

/-- Reports a sample. A sample with nothing to report does not even look for a client. -/
def report (r : Reporting) (s : Sample) : Reporting :=
  if !s.isReported then r
  else
    let (c, r) := r.client
    match c with
    | none => r
    | some c =>
      let (chosen, r) := r.isChosen c.rate
      if chosen then r.write c.sink (line c.stem c.rate c.defaultTags s) else r

/-- Installs a client for the program and for this thread. -/
def install (r : Reporting) (c : Client) : Reporting :=
  { r with installed := some c, found := some (some c) }

/-- Removes the client of the program; threads that have found it keep it. -/
def disable (r : Reporting) : Reporting := { r with installed := none }

/-- Installs a client for a server given by host and port. -/
def connect (r : Reporting) (stem host : String) (defaultTags : Dict String) (rate : Float) :
    Except AddressError Reporting :=
  match Address.parse host with
  | .error e => .error e
  | .ok address =>
    let rate := Double.clampToUnit rate
    let remark := if rate == 0.0 then ", no metrics will be reported" else ""
    let records : List Log.Record := [
      ⟨.debug, source, "metrics sample rate is set to " ++ Double.text .plain rate ++ remark, []⟩,
      ⟨.info, source, "reporting metrics to statsd at " ++ address.text, []⟩]
    .ok ({ r with logged := records ++ r.logged }.install
      (.create stem defaultTags rate .server))

/-- Starts to capture what this thread reports; gives the number of the capture. -/
def startCapture (r : Reporting) : Nat × Reporting :=
  let r := r.client.2
  let n := r.captures.length
  (n, { r with
    captures := r.captures ++ [[]]
    found := some (some ⟨"", .empty, 1.0, .capture n⟩) })

/-- The lines of a capture. -/
def captured (r : Reporting) (n : Nat) : List String := (r.captures.getD n []).reverse

end Reporting

/-! ### Doing several things in turn -/

/-- Something done with metrics. -/
inductive Action
  | report (sample : Sample)
  | install (client : Client)
  | disable
  | look
  | connect (stem host : String) (defaultTags : Dict String) (rate : Float)
  /-- Clamps a sample rate. -/
  | clamp (rate : Float)
  /-- Captures what is reported meanwhile. -/
  | capture (actions : List Action)
  /-- Does things on a thread of their own, and waits for it. -/
  | thread (actions : List Action)
  deriving Inhabited

/-- What came of an action. -/
inductive Result
  | done
  | found (yes : Bool)
  | rate (rate : Float)
  | connected (error : Option AddressError)
  | captured (lines : List String) (results : List Result)
  | thread (results : List Result)
  deriving Inhabited

mutual

/-- Does one thing. -/
def Action.run (r : Reporting) : Action → Result × Reporting
  | .report sample => (.done, r.report sample)
  | .install client => (.done, r.install client)
  | .disable => (.done, r.disable)
  | .look => let (c, r) := r.client; (.found c.isSome, r)
  | .connect stem host tags rate =>
    match r.connect stem host tags rate with
    | .ok r => (.connected none, r)
    | .error e => (.connected (some e), r)
  | .clamp rate => (.rate (Double.clampToUnit rate), r)
  | .capture actions =>
    let before := r.client.1
    let (n, r) := r.startCapture
    let (results, r) := Action.runAll r actions
    (.captured (r.captured n) results, { r with found := some before })
  | .thread actions =>
    -- a thread starts without having looked, and keeps its log to itself
    let (results, r') := Action.runAll { r with found := none } actions
    (.thread results, { r' with found := r.found, logged := r.logged })

/-- Does several things in turn. -/
def Action.runAll (r : Reporting) : List Action → List Result × Reporting
  | [] => ([], r)
  | a :: rest =>
    let (result, r) := a.run r
    let (results, r) := Action.runAll r rest
    (result :: results, r)

end

end Telemetry.Metrics
