/-!
# A binary heap in an array

The children of position `i` stand at `2 * i + 1` and `2 * i + 2`, and no element
is above its parent in the order `le`; so position `0` holds a greatest element.

Two things about the operations are fixed, because the array itself can be
observed when a heap is emptied into another one:

* `Heap.push` appends and lifts, and stops at a parent that is not below;
* `Heap.pop?` puts the last element at the root, lets it sink **to the bottom**
  along the greater children (the right one of two equals), and lifts it from there.
-/

namespace Telemetry.Sampling.Heap

variable {α : Type} (le : α → α → Bool)

/-- The position of the parent. -/
def parent (i : Nat) : Nat := (i - 1) / 2

theorem parent_lt {i : Nat} (h : 0 < i) : parent i < i := by
  simp only [parent]; omega

/-- Lifts the element at `i` until its parent is not below it. -/
def siftUp (heap : Array α) (i : Nat) : Array α :=
  if h : 0 < i ∧ i < heap.size then
    have hp : parent i < heap.size := Nat.lt_trans (parent_lt h.1) h.2
    if le heap[i] heap[parent i] then heap
    else siftUp (heap.swap i (parent i) h.2 hp) (parent i)
  else heap
termination_by i
decreasing_by exact parent_lt h.1

/-- Lets the element at `i` sink to the bottom, and tells where it came to rest. -/
def sink (heap : Array α) (i : Nat) : Array α × Nat :=
  if h : 2 * i + 2 < heap.size then
    if le heap[2 * i + 1] heap[2 * i + 2] then
      sink (heap.swap i (2 * i + 2)) (2 * i + 2)
    else
      sink (heap.swap i (2 * i + 1)) (2 * i + 1)
  else if h : 2 * i + 1 < heap.size then
    (heap.swap i (2 * i + 1), 2 * i + 1)
  else (heap, i)
termination_by heap.size - i
decreasing_by all_goals simp only [Array.size_swap]; omega

/-- Adds an element. -/
def push (heap : Array α) (x : α) : Array α := siftUp le (heap.push x) heap.size

/-- Takes a greatest element off. -/
def pop? (heap : Array α) : Option (α × Array α) :=
  if h : 0 < heap.size then
    let last := heap[heap.size - 1]
    let rest := heap.pop
    if h' : 0 < rest.size then
      let top := rest[0]
      let (sunk, i) := sink le (rest.set 0 last) 0
      some (top, siftUp le sunk i)
    else some (last, rest)
  else none

end Telemetry.Sampling.Heap
