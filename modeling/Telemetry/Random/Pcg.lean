/-!
# A permuted congruential generator

A 64-bit linear congruential state whose output is a permutation of it: the high
bits are folded into the low ones and the result is rotated by the topmost five.
The output is taken from the state *before* the step.
-/

namespace Telemetry.Random

/-- The factor of every linear congruential step. -/
def congruentialFactor : UInt64 := 6364136223846793005

/-- The 32 output bits of a state: fold by `xor`, then rotate right by the topmost
five bits. -/
def permuted (state : UInt64) : UInt32 :=
  let folded : UInt32 := (((state >>> 18) ^^^ state) >>> 27).toUInt32
  let turn : UInt32 := (state >>> 59).toUInt32
  (folded >>> turn) ||| (folded <<< ((32 - turn) % 32))

/-- A generator: its state and the odd increment that selects its sequence. -/
structure Pcg where
  state : UInt64
  increment : UInt64
  deriving Repr, DecidableEq

namespace Pcg

/-- One step of the state. -/
def advance (g : Pcg) : Pcg :=
  { g with state := g.state * congruentialFactor + g.increment }

/-- The next 32 bits. -/
def next32 (g : Pcg) : UInt32 × Pcg := (permuted g.state, g.advance)

/-- The next 64 bits, low half first. -/
def next64 (g : Pcg) : UInt64 × Pcg :=
  let (low, g) := g.next32
  let (high, g) := g.next32
  (low.toUInt64 ||| (high.toUInt64 <<< 32), g)

/-- Stretches a seed to 32-bit words, by a plain generator of its own. -/
def seedWords : Nat → UInt64 → List UInt32
  | 0, _ => []
  | n + 1, s =>
    let s := s * congruentialFactor + 11634580027462260723
    permuted s :: seedWords n s

/-- The generator of a seed: two stretched words make the state and two the
increment, and the state is stepped once. -/
def ofSeed (seed : UInt64) : Pcg :=
  let word (i : Nat) : UInt64 := ((seedWords 4 seed).getD i 0).toUInt64
  let increment := (word 2 ||| (word 3 <<< 32)) ||| 1
  advance ⟨(word 0 ||| (word 1 <<< 32)) + increment, increment⟩

end Pcg

end Telemetry.Random
