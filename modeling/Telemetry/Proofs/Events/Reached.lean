import Telemetry.Proofs.Events.Termination

/-!
# Calls to a service in use

A service is *reached* if it is that of some point of a run, be it in the middle of a step
(`Service.IsReached`). A call to such a service is a run of its own (`Run.calling`), and whatever
holds of all runs holds of it: it is proper, hence it ends; and what has been decided about an
application is what its settings say.

What a call comes to is said by `Run.Ends`: the run ends in a state of which something holds. Its
rules follow the stack. As every proper run ends, this is where `Run.perform` leads
(`Run.Ends.perform`).
-/

namespace Telemetry.Events

open Sampling (HasPriority)

variable {E P S : Type}

section Reached

variable [HasPriority E]

/-- **The service of some point of a run.** -/
def Service.IsReached (s : Service E) : Prop :=
  ∃ settings transport steps random n,
    ((Run.fresh settings transport steps random).advance (.idle E) n).service = s

variable {s : Service E}

/-- What was decided about an application is what its settings say. -/
theorem Service.IsReached.isCandid (h : s.IsReached) : s.IsCandid := by
  obtain ⟨settings, transport, steps, random, n, rfl⟩ := h
  exact Run.isCandid_advance (Run.isCandid_fresh settings transport steps random) n

namespace Run

/-- A run that is about to call a service. -/
def calling (s : Service E) (transport : Transport E Empty) (random : Random.Source) :
    Run E Empty Unit where
  service := s
  transport := transport
  random := random
  observed := ()

/-- The service of a proper run can be called at any point: nothing is in progress then of what
the run has begun, and its batches in flight are forgotten. -/
theorem IsProper.calling {r : Run E Empty Unit} (h : r.IsProper) (transport : Transport E Empty)
    (random : Random.Source) : (calling r.service transport random).IsProper := by
  refine ⟨⟨?_, fun f hf => absurd hf List.not_mem_nil, h.sound.waiting⟩,
    fun f hf => absurd hf List.not_mem_nil, h.regular⟩
  exact h.sound.service.mono (add_le_add (add_le_add (le_refl _) (Multiset.zero_le _)) (le_refl _))

/-- **Nothing is in progress** of the runs that have led to a service. -/
theorem isProper_calling (h : s.IsReached) (transport : Transport E Empty)
    (random : Random.Source) : (calling s transport random).IsProper := by
  obtain ⟨settings, transport', steps, random', n, rfl⟩ := h
  exact ((isProper_fresh settings transport' steps random').advance n).calling transport random

/-- A step is put on the stack of a proper run. -/
theorem IsProper.push_steps {r : Run E Empty Unit} (h : r.IsProper) (steps : List (Step E Empty)) :
    (r.push (.steps steps)).IsProper := by
  have hkept : Kept (fun _ => ()) False 0 r 0 (r.push (.steps steps)) 0 :=
    (Kept.refl h.sound).push trivial rfl (Multiset.add_zero _)
  refine ⟨hkept.sound, fun f hf => ?_, h.regular⟩
  rcases List.mem_cons.1 hf with rfl | hf
  · trivial
  · exact h.frames f hf

end Run

end Reached

/-! ### What a call comes to -/

namespace Run

section Ends

variable [HasPriority E] {observer : Observer E P S} {p : Run E P S → Prop} {r r' : Run E P S}

/-- **The run ends** in a state of which `p` holds. -/
inductive Ends (observer : Observer E P S) (p : Run E P S → Prop) : Run E P S → Prop
  | nil {r : Run E P S} (hstack : r.stack = []) (hp : p r) : Ends observer p r
  | step {r r' : Run E P S} (hstep : r.step observer = some r') (h : Ends observer p r') :
    Ends observer p r

/-- There is no other end. -/
theorem Ends.of_stack_advance (h : Ends observer p r) {n : Nat}
    (hstack : (r.advance observer n).stack = []) : p (r.advance observer n) := by
  -- a run has no choice: both go the same way, and neither can stop before the other
  induction h generalizing n with
  | nil hnil hp => rwa [advance_of_none (step_eq_none_iff.2 hnil)]
  | @step r r' hstep _ ih =>
    cases n with
    | zero =>
      have hnone : r.step observer = none := step_eq_none_iff.2 hstack
      rw [hstep] at hnone
      nomatch hnone
    | succ n =>
      rw [advance_succ_of_some hstep] at hstack ⊢
      exact ih hstack

/-- A frame is resumed. -/
theorem Ends.push {f : Frame E P} (h : (r.resume observer f).Ends observer p) :
    (r.push f).Ends observer p := by
  have hstep : (r.push f).step observer = some (r.resume observer f) := rfl
  exact .step hstep h

/-- Nothing runs before a frame is resumed. -/
theorem Ends.within {f : Frame E P} (h : (r.resume observer f).Ends observer p) :
    (r.within [] f).Ends observer p :=
  .push (f := .steps []) h.push

/-- Nothing is left to be done but to end. -/
theorem Ends.last (hstack : r.stack = [.steps []]) (hp : p { r with stack := [] }) :
    r.Ends observer p := by
  have hstep : r.step observer = some { r with stack := [] } := by
    rw [Run.step, hstack]
    rfl
  exact .step hstep (.nil rfl hp)

end Ends

variable [HasPriority E] {p : Run E Empty Unit → Prop} {r : Run E Empty Unit}

/-- **A call to its end** leads to where it ends. -/
theorem Ends.perform {s : Step E Empty}
    (h : ((r.push (.steps [])).start (.idle E) s).Ends (.idle E) p) (hproper : r.IsProper) :
    (r.perform (.idle E) s).stack = [] ∧ p (r.perform (.idle E) s) := by
  have hstack := (hproper.push_steps [s]).stack_complete
  exact ⟨hstack, Ends.of_stack_advance (.push (f := .steps [s]) h) hstack⟩

end Run

end Telemetry.Events
