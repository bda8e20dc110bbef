import Telemetry.Proofs.Json.Reading
import Telemetry.Simulation.Event

/-!
# Lines are read back

The line of a batch tells the application and the events of the batch: read as JSON, its fields
give them back (`readLine?_batchLine`), priorities included. The line also tells how many events
were offered and how many there was room for, which is left aside here.

An event can be read back if its duration fits into 64 bits and its priority is a number
(`Event.IsReadable`), as those of all simulated events do.
-/

namespace Telemetry.Simulation

open Events (Batch)

/-- The event of a value, if it is one. -/
def Event.ofJson? (v : Json) : Option Event := do
  let .str name ← v.field? "name" | none
  let duration ← (← v.field? "duration_ms").nat64?
  let priority ← (← v.field? "priority").float?
  let .bool isSynthetic ← v.field? "synthetic" | none
  return ⟨name, duration, priority, isSynthetic⟩

/-- **The events of a line**, each with the application of the line. -/
def readLine? (line : String) : Option (List (String × Event)) := do
  let v ← Json.read? line
  let .str app ← v.field? "app_name" | none
  let .arr events ← v.field? "events" | none
  return (← events.mapM Event.ofJson?).map (app, ·)

/-- An event that a line tells in full. -/
structure Event.IsReadable (e : Event) : Prop where
  duration : e.duration < UInt64.size
  priority : Double.isNumber e.priority

theorem Event.reread_toJson {e : Event} (h : e.IsReadable) : e.toJson.reread = e.toJson := by
  have hfields : e.toJson.reread = .obj [
      ("name", .str e.name),
      ("duration_ms", (Json.ofNat e.duration).reread),
      ("priority", (Json.real e.priority).reread),
      ("synthetic", .bool e.isSynthetic)] := rfl
  rw [hfields, Json.reread_ofNat h.duration, Json.reread_real h.priority, Event.toJson]

theorem Event.ofJson?_toJson (e : Event) : Event.ofJson? e.toJson = some e := rfl

theorem mapM_ofJson? {events : List Event} (h : ∀ e ∈ events, e.IsReadable) :
    ((events.map Event.toJson).map Json.reread).mapM Event.ofJson? = some events := by
  induction events with
  | nil => rfl
  | cons e events ih =>
    rw [List.map_cons, List.map_cons, List.mapM_cons, Event.reread_toJson (h e List.mem_cons_self),
      Event.ofJson?_toJson, ih fun e he => h e (List.mem_cons_of_mem _ he)]
    rfl

/-- **The line of a batch** tells its events. -/
theorem readLine?_batchLine {b : Batch Event} (h : ∀ e ∈ b.events, e.IsReadable) :
    readLine? (batchLine b) = some (b.events.map (b.app, ·)) := by
  have hfields : (batchJson b).reread = .obj [
      ("app_name", .str b.app),
      ("reservoir_size", (Json.ofNat b.capacity).reread),
      ("events_seen", (Json.ofNat b.tries).reread),
      ("events", .arr (Json.rereadItems (b.events.map Event.toJson)))] := rfl
  rw [readLine?, batchLine, Json.read?_render, hfields, Json.rereadItems_eq_map]
  change ((_ : List Json).mapM Event.ofJson?).bind _ = _
  rw [mapM_ofJson? h]
  rfl

end Telemetry.Simulation
