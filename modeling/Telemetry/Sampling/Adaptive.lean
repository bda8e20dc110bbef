import Telemetry.Random.Source

/-!
# Adaptive sampling across harvest cycles

Traffic comes in bursts, so how many events are marked as sampled in one cycle
follows from the traffic of the cycle before. The first cycle samples the first
`target` events. A later cycle samples with probability `target / decidedLast`
until the target is reached, and from there on backs off exponentially: the
threshold `target ^ (target / sampled) - target ^ 0.5` is spent once twice the
target has been sampled.

Raising to a power is the one operation on doubles here that no rule of rounding
pins down. The decision therefore takes it as an argument, and
`Sampling.isSampled` is the decision with the power function of the platform.
-/

namespace Telemetry.Sampling

/-- A count as a double, rounded to nearest if it has more than 53 bits. -/
def countAsFloat (n : Nat) : Float := n.toUInt64.toFloat

/-- What one sampling decision looks at: the decisions of the previous cycle, the
number of events to sample per cycle, and how many events of this cycle have been
sampled and decided so far. -/
structure Progress where
  decidedLast : Nat
  target : Nat
  sampled : Nat
  decided : Nat
  deriving DecidableEq, Repr

/-- **One sampling decision**, for a random number in `[0, 1)`. -/
def isSampledBy (power : Float → Float → Float) (p : Progress) (random : Float) : Bool :=
  if p.decidedLast = 0 then p.sampled < p.target
  else if p.sampled < p.target then
    random * countAsFloat p.decidedLast < countAsFloat p.target
  else
    let target := countAsFloat p.target
    let threshold := power target (target / countAsFloat p.sampled) - power target 0.5
    random * countAsFloat (max p.decided 1) < threshold

/-- One sampling decision with the power function of the platform. -/
def isSampled (p : Progress) (random : Float) : Bool := isSampledBy Float.pow p random

/-- How finely priorities are drawn: six decimal places. -/
def prioritySteps : Float := 1000000.0

/-- Drops the fraction of a non-negative number below `2 ^ 64`. -/
def wholePart (x : Float) : Float := x.toUInt64.toFloat

/-- The priority of an event for a random number in `[0, 1)`: the number cut to six
decimal places, and one more for a sampled event, which therefore outranks every
event that is not sampled. -/
def priorityOf (sampled : Bool) (random : Float) : Float :=
  let base := wholePart (random * prioritySteps) / prioritySteps
  if sampled then base + 1.0 else base

/-- Draws the priority of an event. -/
def drawPriority (sampled : Bool) (source : Random.Source) : Float × Random.Source :=
  let (random, source) := source.unit
  (priorityOf sampled random, source)

end Telemetry.Sampling
