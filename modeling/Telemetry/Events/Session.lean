import Telemetry.Events.Period
import Telemetry.Events.Run

/-!
# A session with a service

Someone who uses a service holds on to things the service has handed out, reservoirs and shared
names, and to what is harvested periodically for the applications. A `Session` is what is held,
and a `Probe` is what is done with it. A reservoir in someone's hands stays the same reservoir
when a harvest swaps it out.
-/

namespace Telemetry.Events

open Sampling (HasPriority Reservoir Offer)

variable {E : Type}

/-- What is done with the things held. -/
inductive Probe (E : Type)
  /-- An application is spoken of. -/
  | mention (app : String)
  /-- Holds the live reservoir of an application under a name. -/
  | hold (app : String) (kind : Kind) (name : String)
  /-- Offers an event to a held reservoir. -/
  | offerHeld (name : String) (event : E)
  /-- Counts a try of a held reservoir. -/
  | countHeld (name : String)
  /-- Asks for the shared instance of a transaction name. -/
  | share (name : String)
  /-- Makes sure that an application has something to be harvested. -/
  | plan (app : String)
  /-- Configures the harvest interval of an application, and the harvest limit. -/
  | configure (app : String) (period : Duration) (capacity : Nat)
  /-- A harvest in the background breaks down. -/
  | breakDown

/-- What is held. -/
structure Session where
  /-- The applications spoken of, latest first. -/
  apps : List String := []
  held : Dict Ref := .empty
  /-- The instances of names seen, latest first, and the one seen last. -/
  handles : List Nat := []
  lastHandle : Nat := 0
  /-- What is harvested for the applications. -/
  harvestables : Dict Harvestable := .empty

namespace Session

/-- The number of an instance of a name: how many others had been seen before it. -/
def handleNumber (s : Session) (handle : Nat) : Nat := s.handles.reverse.idxOf handle

/-- What is harvested for an application, made on first use. -/
def harvestable (s : Session) (service : Service E) (app : String) : Harvestable :=
  (s.harvestables.get? app).getD (.create service app)

/-- Keeps what is harvested for an application. -/
def keep (s : Session) (app : String) (h : Harvestable) : Session :=
  { s with harvestables := s.harvestables.insert app h }

/-- What a probe does. -/
def act [HasPriority E] (p : Probe E) (s : Session) (service : Service E) :
    Session × Service E × List (Note E) :=
  match p with
  | .mention app =>
    (if s.apps.contains app then s else { s with apps := app :: s.apps }, service, [])
  | .hold app kind name =>
    match service.liveRef? kind app with
    | some ref => ({ s with held := s.held.insert name ref }, service, [])
    | none => (s, service, [])
  | .offerHeld name event =>
    match s.held.get? name with
    | some ref => (s, (service.offer ref (HasPriority.priority event) event).2, [])
    | none => (s, service, [])
  | .countHeld name =>
    match s.held.get? name with
    | some ref => (s, (service.countTry ref).2, [])
    | none => (s, service, [])
  | .share name =>
    let (handle, service) := service.intern name
    let handles := if s.handles.contains handle then s.handles else handle :: s.handles
    ({ s with handles := handles, lastHandle := handle }, service, [])
  | .plan app => (s.keep app (s.harvestable service app), service, [])
  | .configure app period capacity =>
    let (h, changed) := (s.harvestable service app).configure period capacity service
    (s.keep app h, changed)
  | .breakDown =>
    (s, service, [.record ⟨.error, "harvest_events::scheduler", "harvest thread panicked", []⟩])

/-- The observer that a session is. -/
def observer [HasPriority E] : Observer E (Probe E) Session := ⟨act⟩

end Session

/-- Steps spread over the applications, each harvested a number of times in the background
after it has been configured for that: of this only the harvest limit stays. -/
def scheduled (apps : List String) (times capacity : Nat) : List (Step E (Probe E)) :=
  apps.map (fun _ => .setCapacity capacity) ++
    [.background (apps.flatMap fun app => List.replicate times (.harvest app))]

end Telemetry.Events
