import Telemetry.Config.Description
import Telemetry.Events.Backlog
import Telemetry.Events.Journal
import Telemetry.Events.Names
import Telemetry.Sampling.Reservoir

/-!
# The transaction event service

The service collects events into one live reservoir per application and kind. This
module has its state and everything it does in one go; `Telemetry.Events.Run` has
recording and harvesting, during which other steps may run.

A reservoir keeps its identity when it is swapped out, queued, or still in the hands
of a caller, so reservoirs live in a pool and are referred to by their place in it.

| what | decided by |
|---|---|
| the settings of an application | settings pushed for it, else the loaded configuration (`Service.appSettings`) |
| whether its events are collected | those settings, remembered per configuration generation (`Service.askEnabled`) |
| the size of its reservoirs | those settings, or the synthetic limit (`Service.freshReservoir`) |
-/

namespace Telemetry.Events

open Sampling (Reservoir Offer)
open Config (EventSettings)

/-- The place of a reservoir in the pool. -/
abbrev Ref := Nat

/-- A change of configuration. -/
inductive ConfigChange
  /-- Settings pushed for one application. They win over the configuration file from
  then on. -/
  | app (app : String) (settings : EventSettings)
  /-- The configuration file was loaded again. -/
  | reloaded (settings : Config.Settings)

/-- The state of the service. -/
structure Service (E : Type) where
  /-- Whether events were enabled when the service was made. -/
  enabled : Bool
  settings : Config.Settings
  /-- Settings pushed for applications. -/
  pushed : Dict EventSettings := .empty
  /-- What was decided about an application, and under which generation. -/
  memo : Dict (Nat × Bool) := .empty
  /-- Counts the configuration changes. -/
  generation : Nat := 0
  /-- The default reservoir capacity. -/
  maxSamplesStored : Nat
  names : NameCache
  /-- Counts the name caches that were replaced. -/
  namesVersion : Nat := 0
  isShutDown : Bool := false
  pool : Array (Reservoir E) := #[]
  live : Store Ref := {}
  backlog : Backlog Ref

/-- The part of the program that the records of the service come from. -/
def serviceSource : String := "harvest_events::service"

namespace Service

variable {E : Type}

/-- The service of a configuration, and what it logs when it is made. -/
def create (settings : Config.Settings) : Service E × List (Note E) :=
  let defaults := settings.transactionEvents
  ({ enabled := defaults.enabled
     settings := settings
     maxSamplesStored := defaults.maxSamplesStored
     names := .empty defaults.maxSamplesStored 0
     backlog := { capacity := settings.harvest.synthetics.maxPendingBatches } },
    if defaults.enabled then []
    else [.record ⟨.info, serviceSource, "transaction events are disabled", []⟩])

/-! ### Reservoirs by reference -/

/-- The reservoir at a place of the pool. -/
def reservoir (s : Service E) (ref : Ref) : Reservoir E := s.pool.getD ref default

/-- Changes the reservoir at a place of the pool. -/
def modify (s : Service E) (ref : Ref) (f : Reservoir E → Reservoir E) : Service E :=
  { s with pool := s.pool.modify ref f }

/-- Offers an event to a reservoir. -/
def offer (s : Service E) (ref : Ref) (priority : Float) (event : E) :
    Offer E × Service E :=
  (((s.reservoir ref).offer priority event).1,
    s.modify ref fun r => (r.offer priority event).2)

/-- Counts a try of a reservoir; `false` if it is sealed. -/
def countTry (s : Service E) (ref : Ref) : Bool × Service E :=
  ((s.reservoir ref).countTry.1, s.modify ref fun r => r.countTry.2)

/-- Makes the next sampling decision of a reservoir. -/
def decide (s : Service E) (ref : Ref) (random : Float) : Bool × Service E :=
  (((s.reservoir ref).decide random).1, s.modify ref fun r => (r.decide random).2)

/-- Merges one reservoir into another, and leaves it empty. A reservoir merged into
itself stays as it is. -/
def mergeInto (s : Service E) (target source : Ref) : Service E :=
  if target = source then s
  else
    let other := s.reservoir source
    (s.modify source (·.drained)).modify target (·.merge other)

/-- The batch that a reservoir amounts to. -/
def batch (s : Service E) (ref : Ref) : Batch E :=
  let r := s.reservoir ref
  ⟨r.app, r.capacity, r.tries, r.toList⟩

/-! ### Settings -/

/-- The settings of an application: those pushed for it, else those of the file, where
the global capacity gives way to `maxSamplesStored`. -/
def appSettings (s : Service E) (app : String) : EventSettings :=
  match s.pushed.get? app with
  | some settings => settings
  | none =>
    let defaults := { s.settings.transactionEvents with maxSamplesStored := s.maxSamplesStored }
    match s.settings.apps.get? app with
    | some o => o.applyTo defaults
    | none => defaults

/-- Remembers a decision under the generation it was made in. -/
def memoize (s : Service E) (app : String) (generation : Nat) (decision : Bool) : Service E :=
  { s with memo := s.memo.insert app (generation, decision) }

/-- The remembered decision of the current generation. -/
def remembered? (s : Service E) (app : String) : Option Bool :=
  match s.memo.get? app with
  | some (generation, decision) => if generation = s.generation then some decision else none
  | none => none

/-- Whether the events of an application are collected, remembered for next time. -/
def askEnabled (s : Service E) (app : String) : Bool × Service E :=
  match s.remembered? app with
  | some decision => (decision, s)
  | none =>
    let decision := (s.appSettings app).enabled
    (decision, s.memoize app s.generation decision)

/-- Takes up a configuration change. Applications that end up disabled lose their live
ordinary reservoir. -/
def change (s : Service E) : ConfigChange → Service E × List (Note E)
  | .app app settings =>
    let s := { s with
      pushed := s.pushed.insert app settings
      generation := s.generation + 1
      memo := s.memo.erase app }
    (if settings.enabled then s else { s with live := s.live.remove .ordinary app },
      [.record ⟨.debug, serviceSource, "transaction events config changed",
        [("app", .text app), ("config", .shown settings.description.inline)]⟩])
  | .reloaded settings =>
    let s := { s with
      backlog := s.backlog.withCapacity settings.harvest.synthetics.maxPendingBatches
      settings := settings
      generation := s.generation + 1
      memo := .empty }
    ({ s with live :=
        { s.live with ordinary := s.live.ordinary.filter fun app _ => (s.appSettings app).enabled } },
      [.record ⟨.debug, serviceSource, "configuration reloaded", []⟩])

/-- Changes the default capacity. Live reservoirs keep theirs; names are shared anew. -/
def setCapacity (s : Service E) (n : Nat) : Service E × List (Note E) :=
  if s.maxSamplesStored = n then (s, [])
  else
    ({ s with
        maxSamplesStored := n
        names := .empty n s.names.nextHandle
        namesVersion := s.namesVersion + 1 },
      [.record ⟨.debug, serviceSource, "changed reservoir capacity",
        [("previous", .count s.maxSamplesStored), ("max_samples_stored", .count n)]⟩])

/-! ### Live reservoirs -/

/-- The live reservoir of an application. -/
def liveRef? (s : Service E) (kind : Kind) (app : String) : Option Ref := s.live.get? kind app

/-- The tries of the live reservoir of an application, or none. -/
def liveTries (s : Service E) (kind : Kind) (app : String) : Nat :=
  Sampling.decidedLastOf ((s.liveRef? kind app).map s.reservoir)

/-- A new reservoir for an application, as large as its settings say. -/
def freshReservoir (s : Service E) (kind : Kind) (app : String) (decidedLast : Nat) :
    Reservoir E :=
  let settings := s.appSettings app
  let capacity := match kind with
    | .ordinary => settings.maxSamplesStored
    | .synthetic => s.settings.harvest.synthetics.maxEventsPerApp
  .empty app kind.service capacity decidedLast settings.targetSamplesStored

/-- Puts a new reservoir into the pool and makes it the live one. -/
def install (s : Service E) (kind : Kind) (app : String) (decidedLast : Nat) : Ref × Service E :=
  let ref := s.pool.size
  let fresh := s.freshReservoir kind app decidedLast
  (ref, { s with pool := s.pool.push fresh, live := s.live.set kind app ref })

/-- The live reservoir of an application, made if there is none. -/
def getOrCreate (s : Service E) (kind : Kind) (app : String) : Ref × Service E :=
  match s.liveRef? kind app with
  | some ref => (ref, s)
  | none => s.install kind app 0

/-- Swaps the live reservoir of an application for a new one that knows its tries, and
seals it: a caller still holding it moves on to the new one. -/
def swapOut (s : Service E) (kind : Kind) (app : String) : Option Ref × Service E :=
  let previous := s.liveRef? kind app
  let s := (s.install kind app (s.liveTries kind app)).2
  match previous with
  | some ref => (some ref, s.modify ref (·.sealed))
  | none => (none, s)

/-- Takes the live ordinary reservoir of an application away. -/
def removeOrdinary (s : Service E) (app : String) : Service E :=
  { s with live := s.live.remove .ordinary app }

/-- Takes all live ordinary reservoirs away. -/
def clearOrdinary (s : Service E) : Service E := { s with live := s.live.clear .ordinary }

/-- Stops collecting, for good. -/
def shutDown (s : Service E) : Service E × List (Note E) :=
  ({ s.clearOrdinary with isShutDown := true },
    if s.isShutDown then []
    else [.record ⟨.info, serviceSource, "shutting down transaction events", []⟩])

/-- Whether the service collects events at all. -/
def isActive (s : Service E) : Bool := s.enabled && !s.isShutDown

/-- Makes the sampling decision for the next event of an application. -/
def decideNext (s : Service E) (app : String) (random : Float) : Bool × Service E :=
  let (ref, s) := s.getOrCreate .ordinary app
  s.decide ref random

/-- The shared instance of a name. Names do not expire within a run. -/
def intern (s : Service E) (name : String) : Nat × Service E :=
  let (handle, names) := s.names.intern name 0
  (handle, { s with names := names })

/-- Shares a name in the cache of a given version; a cache that has been replaced since
is out of reach, and so is what it is told. -/
def internAt (s : Service E) (version : Nat) (name : String) : Service E :=
  if version = s.namesVersion then (s.intern name).2 else s

end Service

end Telemetry.Events
