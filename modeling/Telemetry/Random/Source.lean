import Telemetry.Random.Pcg

/-!
# Sources of random numbers

Everything random is drawn from a `Source`: a seeded generator, or a fixed list of
64-bit draws that starts over at its end. On top of the raw draws stand the three
things the program draws – a number in the unit interval, a number below a bound,
and a yes or no of given probability.
-/

namespace Telemetry.Random

/-- Where random numbers come from. -/
inductive Source
  | seeded (generator : Pcg)
  | listed (draws : Array UInt64) (position : Nat)

namespace Source

/-- The source of a seed. -/
def ofSeed (seed : UInt64) : Source := .seeded (Pcg.ofSeed seed)

/-- The source that hands out the given draws in turn. -/
def ofDraws (draws : List UInt64) : Source := .listed draws.toArray 0

/-- The next 64 random bits. -/
def next64 : Source → UInt64 × Source
  | .seeded g => let (x, g) := g.next64; (x, .seeded g)
  | .listed draws position =>
    (draws.getD position 0,
      .listed draws (if position + 1 < draws.size then position + 1 else 0))

/-- The next 32 random bits; a listed draw gives its low half. -/
def next32 : Source → UInt32 × Source
  | .seeded g => let (x, g) := g.next32; (x, .seeded g)
  | s@(.listed ..) => let (x, s) := s.next64; (x.toUInt32, s)

/-- A random number in `[0, 1)`: 53 random bits, as a fraction. -/
def unit (s : Source) : Float × Source :=
  let (x, s) := s.next64
  ((x >>> 11).toFloat * (1.0 / 9007199254740992.0), s)

/-- A number below `n`, from one `x` out of `size` random numbers by the product `x · n`: its
high part is the answer, and its low part tells when a second draw has to settle
the carry, so that every answer is equally likely. -/
def scaledDraw (size n x : Nat) (second : Unit → Nat × Source) (s : Source) : Nat × Source :=
  let low := x * n % size
  let high := x * n / size
  if size - n < low then
    let (y, s) := second ()
    (if size ≤ low + y * n / size then high + 1 else high, s)
  else (high, s)

/-- A random number below `n`, drawn from 32 bits. -/
def below32 (s : Source) (n : Nat) : Nat × Source :=
  let (x, s) := s.next32
  scaledDraw UInt32.size n x.toNat (fun _ => let (y, s) := s.next32; (y.toNat, s)) s

/-- A random number below `n`, drawn from 64 bits. -/
def below64 (s : Source) (n : Nat) : Nat × Source :=
  let (x, s) := s.next64
  scaledDraw UInt64.size n x.toNat (fun _ => let (y, s) := s.next64; (y.toNat, s)) s

/-- Yes with probability `p`. Certainty draws nothing; impossibility does draw. -/
def chance (s : Source) (p : Float) : Bool × Source :=
  if p == 1.0 then (true, s)
  else
    let (x, s) := s.next64
    (x < (p * 18446744073709551616.0).toUInt64, s)

end Source

end Telemetry.Random
