/-!
# Shared transaction names

Events with one name share one instance of it. The cache hands out instances: it
keeps the most recently used names up to its capacity, and forgets a name five
minutes after its last use. An instance has the name for its text; it is told apart
from others of that text by its number, and a number is never given out twice.

The clock counts ticks, of whatever length. It may be read backwards; then no time
has passed.
-/

namespace Telemetry.Events

/-- How long after its last use a name expires, by a clock of so many ticks a second. -/
def nameLifetime (ticksPerSecond : Nat) : Nat := 5 * 60 * ticksPerSecond

/-- A shared instance of a name. -/
structure SharedName where
  text : String
  number : Nat
  deriving DecidableEq, Repr

/-- A name in the cache, with the instance that is handed out for it. -/
structure CachedName where
  name : String
  shared : SharedName
  lastUse : Nat
  deriving DecidableEq, Repr

/-- The names in use, most recently used first. -/
structure NameCache where
  entries : List CachedName
  capacity : Nat
  lifetime : Nat
  nextHandle : Nat
  deriving DecidableEq, Repr

namespace NameCache

/-- An empty cache. A cache holds at least one name. Its instances are numbered from
`firstHandle` on. -/
def empty (capacity firstHandle : Nat) (ticksPerSecond : Nat := 1000) : NameCache :=
  ⟨[], max capacity 1, nameLifetime ticksPerSecond, firstHandle⟩

/-- The number of names held, expired ones included. -/
def size (c : NameCache) : Nat := c.entries.length

/-- Whether a name is still shared at a time. -/
def isFresh (c : NameCache) (e : CachedName) (now : Nat) : Bool := now - e.lastUse < c.lifetime

/-- Makes an entry the most recently used one, in place of any of its name. Beyond
the capacity, the least recently used name is dropped. -/
def touch (c : NameCache) (e : CachedName) : NameCache :=
  { c with entries := (e :: c.entries.filter (·.name ≠ e.name)).take c.capacity }

/-- Makes a new instance of a name, in place of any that was shared before. -/
def renew (c : NameCache) (name : String) (now : Nat) : SharedName × NameCache :=
  let shared : SharedName := ⟨name, c.nextHandle⟩
  (shared, { c with nextHandle := c.nextHandle + 1 }.touch ⟨name, shared, now⟩)

/-- **The shared instance of a name** at a time: the one in the cache if it is fresh,
else a new one. -/
def share (c : NameCache) (name : String) (now : Nat) : SharedName × NameCache :=
  match c.entries.find? (·.name = name) with
  | some e =>
    if c.isFresh e now then (e.shared, c.touch { e with lastUse := now }) else c.renew name now
  | none => c.renew name now

/-- The number of the shared instance of a name. -/
def intern (c : NameCache) (name : String) (now : Nat) : Nat × NameCache :=
  let (shared, c) := c.share name now
  (shared.number, c)

end NameCache

end Telemetry.Events
