import Telemetry.Simulation.Load
import Telemetry.Proofs.Random.Source
import Mathlib.Data.List.GetD

/-!
# The load of a cycle

What a producer draws is proper (`Job.IsProper`): a job for one of the simulated applications,
with a name from the list, that takes no time out of range. And all producers together draw
`Options.load` jobs for each cycle: the events asked for, rounded up to a whole share for each
producer.
-/

namespace Telemetry.Simulation

variable {o : Options}

/-- How many events are recorded in a cycle. -/
def Options.load (o : Options) : Nat := o.producers * o.eventsPerProducer

theorem isProbability_of_beq_zero {x : Float} (h : x == 0.0) : isProbability x := by
  rcases Double.eq_or_eq_of_beq_zero h with rfl | rfl <;> decide +kernel

/-- A job that a simulation can record. -/
structure Job.IsProper (o : Options) (j : Job) : Prop where
  app : j.app ∈ o.appNames
  name : j.name ∈ transactionNames
  duration : 1 ≤ j.duration ∧ j.duration < durationBound

theorem isProper_draw (h : 0 < o.apps) (s : Random.Source) : (Job.draw o s).1.IsProper o where
  app := List.mem_map.2 ⟨_, List.mem_range.2 (s.below32_lt h), rfl⟩
  name := by
    have hmem : ∀ {i : Nat}, i < transactionNames.length →
        transactionNames.getD i "" ∈ transactionNames := fun hlt => by
      rw [List.getD_eq_getElem _ _ hlt]
      exact List.getElem_mem hlt
    exact hmem (Random.Source.below32_lt _ (by decide))
  duration := by
    have hlt := ((s.below32 o.apps).2.below32 transactionNames.length).2.below64_lt
      (show 0 < durationBound - 1 by decide)
    exact ⟨Nat.le_add_left 1 _, Nat.add_lt_of_lt_sub hlt⟩

theorem length_drawJobs (o : Options) (n : Nat) (done : List Job) (s : Random.Source) :
    (drawJobs o n done s).length = done.length + n := by
  induction n generalizing done s with
  | zero => exact List.length_reverse
  | succ n ih =>
    change (drawJobs o n ((Job.draw o s).1 :: done) (Job.draw o s).2).length = _
    rw [ih, List.length_cons]
    omega

theorem isProper_drawJobs (h : 0 < o.apps) {n : Nat} {done : List Job}
    (hdone : ∀ j ∈ done, j.IsProper o) (s : Random.Source) :
    ∀ j ∈ drawJobs o n done s, j.IsProper o := by
  induction n generalizing done s with
  | zero => exact fun j hj => hdone j (List.mem_reverse.1 hj)
  | succ n ih =>
    refine ih (fun j hj => ?_) (Job.draw o s).2
    rcases List.mem_cons.1 hj with rfl | hj
    · exact isProper_draw h s
    · exact hdone j hj

theorem cycleJobs_succ (o : Options) (n : Nat) (seeds : Random.Source) :
    ∃ s, (cycleJobs o (n + 1) seeds).1 =
      drawJobs o o.eventsPerProducer [] s :: (cycleJobs o n seeds.next64.2).1 :=
  ⟨_, rfl⟩

/-- **The jobs of a cycle** are as many as the load says. -/
theorem length_cycleJobs (o : Options) (seeds : Random.Source) :
    (cycleJobs o o.producers seeds).1.flatten.length = o.load := by
  have hall : ∀ n seeds, (cycleJobs o n seeds).1.flatten.length = n * o.eventsPerProducer := by
    intro n
    induction n with
    | zero => exact fun _ => (Nat.zero_mul _).symm
    | succ n ih =>
      intro seeds
      obtain ⟨s, hs⟩ := cycleJobs_succ o n seeds
      rw [hs, List.flatten_cons, List.length_append, ih, length_drawJobs, List.length_nil,
        Nat.succ_mul]
      omega
  exact hall o.producers seeds

theorem isProper_cycleJobs (h : 0 < o.apps) (n : Nat) (seeds : Random.Source) :
    ∀ j ∈ (cycleJobs o n seeds).1.flatten, j.IsProper o := by
  induction n generalizing seeds with
  | zero => exact fun j hj => absurd hj List.not_mem_nil
  | succ n ih =>
    obtain ⟨s, hs⟩ := cycleJobs_succ o n seeds
    intro j hj
    rw [hs, List.flatten_cons] at hj
    rcases List.mem_append.1 hj with hj | hj
    · exact isProper_drawJobs h (fun j hj => absurd hj List.not_mem_nil) s j hj
    · exact ih _ j hj

end Telemetry.Simulation
