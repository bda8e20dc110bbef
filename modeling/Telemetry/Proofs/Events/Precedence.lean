import Telemetry.Proofs.Events.Revival

/-!
# What time does to a service

A service that is at one point of a run, and one that it is at later: `Service.Precedes` says
what they have in common, whatever has happened in between.

* Reservoirs keep their place in the pool and their shell, and a sealed one stays sealed.
* The generation only grows, and as long as it is the same, the same applications are
  collected.

The relation is transitive, so it is enough to see that it holds across each function of
`Telemetry.Events.Run`, and hence across a step (`Run.precedes_step`). Nothing is assumed about
the run: this does not depend on any invariant.
-/

namespace Telemetry.Events

open Sampling (HasPriority Reservoir)

variable {E P S : Type}

namespace Service

/-- **What stays the same** from one point of a run to a later one. -/
structure Precedes (s s' : Service E) : Prop where
  grows : Grows (fun _ => True) s s'
  generation : s.generation ≤ s'.generation
  /-- Within one generation it does not change who is collected. -/
  isCollected : s'.generation = s.generation → ∀ app, s'.isCollected app = s.isCollected app

variable {s s' s'' : Service E}

theorem Precedes.refl (s : Service E) : s.Precedes s :=
  ⟨.refl _ s, Nat.le_refl _, fun _ _ => rfl⟩

theorem Precedes.trans (h : s.Precedes s') (h' : s'.Precedes s'') : s.Precedes s'' := by
  refine ⟨h.grows.trans h'.grows, Nat.le_trans h.generation h'.generation, fun heq app => ?_⟩
  have hle := h.generation
  have hle' := h'.generation
  have hlast : s''.generation = s'.generation := by omega
  have hfirst : s'.generation = s.generation := by omega
  rw [h'.isCollected hlast, h.isCollected hfirst]

theorem SameSettings.precedes (h : s.SameSettings s') (hg : Grows (fun _ => True) s s') :
    s.Precedes s' :=
  ⟨hg, Nat.le_of_eq h.generation.symm, fun _ => h.sameRules.isCollected⟩

/-- Neither the pool nor the settings have changed. -/
theorem precedes_of_pool_eq (hpool : s'.pool = s.pool) (hgeneration : s'.generation = s.generation)
    (hcollected : ∀ app, s'.isCollected app = s.isCollected app) : s.Precedes s' :=
  ⟨grows_of_pool_eq hpool _, Nat.le_of_eq hgeneration.symm, fun _ => hcollected⟩

/-- A new generation may collect whom it likes. -/
theorem precedes_of_lt (h : s.generation < s'.generation) (hg : Grows (fun _ => True) s s') :
    s.Precedes s' :=
  ⟨hg, Nat.le_of_lt h, fun heq => absurd heq (Nat.ne_of_gt h)⟩

/-! ### The operations of a service -/

theorem generation_askEnabled (s : Service E) (app : String) :
    (s.askEnabled app).2.generation = s.generation := by
  rw [askEnabled]
  split <;> rfl

theorem generation_setCapacity (s : Service E) (n : Nat) :
    (s.setCapacity n).1.generation = s.generation := by
  rw [setCapacity]
  split <;> rfl

theorem generation_change (s : Service E) (c : ConfigChange) :
    (s.change c).1.generation = s.generation + 1 := by
  rcases c with ⟨app, ⟨_ | _, capacity, target⟩⟩ | settings <;> rfl

theorem precedes_askEnabled (s : Service E) (app : String) : s.Precedes (s.askEnabled app).2 where
  grows := (s.sameReservoirs_askEnabled app).grows _
  generation := Nat.le_of_eq (s.generation_askEnabled app).symm
  isCollected _ := (s.sameRules_askEnabled app).isCollected

theorem precedes_setCapacity (s : Service E) (n : Nat) : s.Precedes (s.setCapacity n).1 where
  grows := (s.sameReservoirs_setCapacity n).grows _
  generation := Nat.le_of_eq (s.generation_setCapacity n).symm
  isCollected _ := s.isCollected_setCapacity n

theorem precedes_internAt (s : Service E) (version : Nat) (name : String) :
    s.Precedes (s.internAt version name) :=
  (s.sameSettings_internAt version name).precedes ((s.sameReservoirs_internAt version name).grows _)

theorem precedes_modify (s : Service E) (ref : Ref) {f : Reservoir E → Reservoir E}
    (hshell : ∀ r : Reservoir E, (f r).shell = r.shell)
    (hsealed : ∀ r : Reservoir E, (f r).isSealed = r.isSealed) : s.Precedes (s.modify ref f) :=
  (s.sameSettings_modify ref f).precedes
    (s.grows_modify _ ref hshell (fun r h => (hsealed r).trans h) (.inl trivial))

theorem precedes_getOrCreate (s : Service E) (kind : Kind) (app : String) :
    s.Precedes (s.getOrCreate kind app).2 :=
  (s.sameSettings_getOrCreate kind app).precedes (s.grows_getOrCreate _ kind app)

theorem precedes_swapOut (s : Service E) (kind : Kind) (app : String) :
    s.Precedes (s.swapOut kind app).2 :=
  (s.sameSettings_swapOut kind app).precedes (s.grows_swapOut _ kind app)

theorem precedes_mergeInto (s : Service E) (target source : Ref) :
    s.Precedes (s.mergeInto target source) := by
  rw [mergeInto]
  split
  · exact .refl s
  · exact (s.precedes_modify source (fun r => r.shell_drained) fun _ => rfl).trans
      (precedes_modify _ target (fun r => r.shell_merge _) fun r => r.isSealed_merge _)

theorem precedes_removeOrdinary (s : Service E) (app : String) :
    s.Precedes (s.removeOrdinary app) := by
  refine precedes_of_pool_eq ?_ ?_ fun _ => ?_ <;> rfl

theorem precedes_clearOrdinary (s : Service E) : s.Precedes s.clearOrdinary := by
  refine precedes_of_pool_eq ?_ ?_ fun _ => ?_ <;> rfl

theorem precedes_shutDown (s : Service E) : s.Precedes s.shutDown.1 := by
  refine precedes_of_pool_eq ?_ ?_ fun _ => ?_ <;> rfl

theorem precedes_backlog (s : Service E) (backlog : Backlog Ref) :
    s.Precedes { s with backlog := backlog } := by
  refine precedes_of_pool_eq ?_ ?_ fun _ => ?_ <;> rfl

theorem precedes_change (s : Service E) (c : ConfigChange) : s.Precedes (s.change c).1 :=
  precedes_of_lt (by rw [generation_change]; exact Nat.lt_succ_self _)
    (grows_of_pool_eq (s.retires_change c).pool _)

/-- A decision that is written down, whenever it was made. -/
theorem precedes_memoize (s : Service E) (app : String) (generation : Nat) (decision : Bool) :
    s.Precedes (s.memoize app generation decision) := by
  refine precedes_of_pool_eq ?_ ?_ fun _ => ?_ <;> rfl

end Service

namespace Run

open Service (Precedes)

/-! ### Recording -/

section Record

variable [HasPriority E]

theorem precedes_offerTo (r : Run E P S) (kind : Kind) (app : String) (job : Job E P)
    (ref : Ref) : r.service.Precedes (r.offerTo kind app job ref).service := by
  have hoffered : r.service.Precedes
      (r.service.offer ref (HasPriority.priority job.work.event) job.work.event).2 :=
    r.service.precedes_modify ref (fun r => r.shell_offer _ _) fun r => r.isSealed_offer _ _
  rw [offerTo_eq]
  generalize r.service.offer ref (HasPriority.priority job.work.event) job.work.event = result
    at hoffered ⊢
  obtain ⟨decision, s⟩ := result
  cases decision <;> cases kind
  case accepted.synthetic =>
    change Service.Precedes _ (Run.note _ _).service
    rw [note_service]
    exact hoffered
  all_goals exact hoffered

theorem precedes_submit (r : Run E P S) (kind : Kind) (app : String) (job : Job E P)
    (ref : Ref) : r.service.Precedes (r.submit kind app job ref).service := by
  rw [submit]
  split
  · exact .refl _
  · exact r.precedes_offerTo kind app job ref

theorem precedes_compete (r : Run E P S) (kind : Kind) (app : String) (job : Job E P) :
    r.service.Precedes (r.compete kind app job).service := by
  have hgot := r.service.precedes_getOrCreate kind app
  rw [compete]
  generalize r.service.getOrCreate kind app = result at hgot ⊢
  obtain ⟨ref, s⟩ := result
  have hsubmitted := hgot.trans ((r.withService s).precedes_submit kind app job ref)
  have hcounted : r.service.Precedes (s.countTry ref).2 :=
    hgot.trans (s.precedes_modify ref (fun r => r.shell_countTry) fun r => r.isSealed_countTry)
  cases kind with
  | synthetic => exact hsubmitted
  | ordinary =>
    simp only
    split
    · split
      · exact hgot
      · exact hsubmitted
    · split
      · exact hcounted
      · exact hcounted

theorem precedes_afterBuild (r : Run E P S) (app : String) (job : Job E P) (namesVersion : Nat)
    (goal : Option Ref) :
    r.service.Precedes (r.afterBuild app job namesVersion goal).service := by
  have hshared := r.service.precedes_internAt namesVersion job.work.name
  have hsubmitted :=
    (r.withService (r.service.internAt namesVersion job.work.name)).precedes_submit .ordinary app
      { job with onBuild := none }
  have hcompeted :=
    (r.withService (r.service.internAt namesVersion job.work.name)).precedes_compete .synthetic app
      { job with onBuild := none }
  cases goal with
  | some ref => exact hshared.trans (hsubmitted ref)
  | none => exact hshared.trans hcompeted

theorem precedes_afterAsk (r : Run E P S) (app : String) (job : Job E P) :
    r.service.Precedes (r.afterAsk app job).service := by
  rw [afterAsk]
  split
  · exact .refl _
  · exact r.precedes_compete .ordinary app job

omit [HasPriority E] in
theorem precedes_record (r : Run E P S) (app : String) (work : Work E)
    (onAsk onBuild : List (Step E P)) (onPriority : List (List (Step E P))) :
    r.service.Precedes (r.record app work onAsk onBuild onPriority).service := by
  have hasked := r.service.precedes_askEnabled app
  rw [record]
  generalize r.service.askEnabled app = result at hasked ⊢
  obtain ⟨enabled, s⟩ := result
  simp only at hasked ⊢
  split
  · exact .refl _
  · split
    · exact hasked.trans (s.precedes_removeOrdinary app)
    · exact hasked

end Record

theorem precedes_drawPriority (r : Run E P S) (app : String) :
    r.service.Precedes (r.drawPriority app).service :=
  (r.service.precedes_getOrCreate .ordinary app).trans
    (Service.precedes_modify _ _ (fun res => res.shell_decide _) fun res => res.isSealed_decide _)

/-! ### Harvesting -/

theorem precedes_enqueue (r : Run E P S) (app : String) (ref : Ref) :
    r.service.Precedes (r.enqueue app ref).service := by
  rw [enqueue]
  split
  · exact r.service.precedes_backlog _
  · rw [note_service, log, note_service]
    exact .refl _

theorem precedes_harvest (r : Run E P S) (app : String) :
    r.service.Precedes (r.harvest app).service := by
  have hswapped := r.service.precedes_swapOut .synthetic app
  have hqueued := precedes_enqueue
    ((r.withAnswer .none).withService (r.service.swapOut .synthetic app).2) app
  rw [harvest]
  simp only
  split
  · exact .refl _
  · split
    · split
      · exact hswapped
      · exact hswapped.trans (hqueued _)
    · exact hswapped

theorem precedes_endDrain (r : Run E P S) (app : String) :
    r.service.Precedes (r.endDrain app).service := by
  change r.service.Precedes (Run.note _ _).service
  rw [note_service]
  exact .refl _

theorem precedes_drain (r : Run E P S) (app : String) (budget : Nat) :
    r.service.Precedes (r.drain app budget).service := by
  unfold drain
  split
  · rw [send_service]
    exact r.service.precedes_backlog _
  · exact r.precedes_endDrain app

theorem precedes_requeue (r : Run E P S) (ref : Ref) :
    r.service.Precedes (r.requeue ref).service := by
  have hmoved := r.service.precedes_backlog (r.service.backlog.requeue ref).2
  rw [requeue]
  generalize r.service.backlog.requeue ref = result at hmoved ⊢
  obtain ⟨dropped, backlog⟩ := result
  cases dropped with
  | none => exact hmoved
  | some ref' =>
    simp only [log, note_service]
    exact hmoved

theorem precedes_settleSynthetic (r : Run E P S) (app : String) (budget : Nat)
    (flight : Flight E) :
    r.service.Precedes (r.settleSynthetic app budget flight).service := by
  have hnoted : ∀ r' : Run E P S, r'.service = r.service → r.service.Precedes r'.service :=
    fun r' h => by
      rw [h]
      exact .refl _
  rw [settleSynthetic]
  cases flight.outcome with
  | none =>
    refine hnoted _ ?_
    change (Run.note _ _).service = _
    rw [note_service, note_service]
  | some error =>
    simp only
    split
    · refine Precedes.trans (hnoted _ ?_) ((precedes_requeue _ _).trans (precedes_endDrain _ app))
      rw [note_service, logUnsent_service, note_service]
    · refine Precedes.trans (hnoted _ ?_) (precedes_endDrain _ app)
      rw [note_service, logUnsent_service, note_service]

theorem precedes_harvestOrdinary (r : Run E P S) (app : String) :
    r.service.Precedes (r.harvestOrdinary app).service := by
  have hasked := r.service.precedes_askEnabled app
  rw [harvestOrdinary]
  generalize r.service.askEnabled app = result at hasked ⊢
  obtain ⟨enabled, s⟩ := result
  simp only at hasked ⊢
  split
  · exact hasked.trans (s.precedes_removeOrdinary app)
  · have hswapped := hasked.trans (s.precedes_swapOut .ordinary app)
    generalize s.swapOut .ordinary app = result at hswapped ⊢
    obtain ⟨swapped, s'⟩ := result
    split
    · exact hswapped
    · split
      · exact hswapped
      · rw [send_service, note_service]
        exact hswapped

theorem precedes_settleOrdinary (r : Run E P S) (app : String) (flight : Flight E) :
    r.service.Precedes (r.settleOrdinary app flight).service := by
  rw [settleOrdinary]
  cases flight.outcome with
  | none =>
    simp only [log, note_service]
    exact .refl _
  | some error =>
    simp only [note_service, logUnsent_service]
    split
    · rw [note_service]
      exact (r.service.precedes_getOrCreate .ordinary app).trans (Service.precedes_mergeInto _ _ _)
    · rw [note_service]
      exact r.service.precedes_modify _ (fun r => r.shell_clear) fun _ => rfl

/-! ### Steps -/

theorem precedes_start (r : Run E Empty Unit) (s : Step E Empty) :
    r.service.Precedes (r.start (.idle E) s).service := by
  cases s with
  | recordWith app work onAsk onBuild onPriority =>
    exact r.precedes_record app work onAsk onBuild onPriority
  | recordDrawn app make =>
    exact (r.precedes_drawPriority app).trans
      (precedes_record { r.drawPriority app with numbered := r.numbered + 1 } app _ [] [] [])
  | drawPriority app => exact r.precedes_drawPriority app
  | harvest app => exact r.precedes_harvest app
  | change c =>
    have hchanged := r.service.precedes_change c
    rw [← r.absorb_service (r.service.change c)] at hchanged
    exact hchanged
  | setCapacity n =>
    have hset := r.service.precedes_setCapacity n
    rw [← r.absorb_service (r.service.setCapacity n)] at hset
    exact hset
  | getOrCreate app => exact r.service.precedes_getOrCreate .ordinary app
  | clear => exact r.service.precedes_clearOrdinary
  | shutDown =>
    have hdown := r.service.precedes_shutDown
    rw [← r.absorb_service r.service.shutDown] at hdown
    exact hdown
  | askEnabled app => exact r.service.precedes_askEnabled app
  | background steps => exact .refl _
  | probe p => exact p.elim

variable [HasPriority E]

theorem precedes_resume (r : Run E Empty Unit) (f : Frame E Empty) :
    r.service.Precedes (r.resume (.idle E) f).service := by
  cases f with
  | steps steps =>
    cases steps with
    | nil => exact .refl _
    | cons s rest => exact precedes_start (r.push (.steps rest)) s
  | asked app job => exact r.precedes_afterAsk app job
  | compete kind app job => exact r.precedes_compete kind app job
  | built app job namesVersion goal => exact r.precedes_afterBuild app job namesVersion goal
  | offer kind app job ref => exact r.precedes_offerTo kind app job ref
  | drain app budget => exact r.precedes_drain app budget
  | settleSynthetic app budget flight => exact r.precedes_settleSynthetic app budget flight
  | ordinary app => exact r.precedes_harvestOrdinary app
  | settleOrdinary app flight => exact r.precedes_settleOrdinary app flight
  | foreground wasBackground => exact .refl _

/-- **A step** leaves reservoirs in their place, and changes who is collected only with the
generation. -/
theorem precedes_step {r r' : Run E Empty Unit} (hstep : r.step (.idle E) = some r') :
    r.service.Precedes r'.service := by
  obtain ⟨f, rest, -, rfl⟩ := step_eq_some_iff.1 hstep
  exact precedes_resume { r with stack := rest } f

/-- **A run** does the same. -/
theorem precedes_advance (r : Run E Empty Unit) (n : Nat) :
    r.service.Precedes (r.advance (.idle E) n).service := by
  induction n generalizing r with
  | zero => exact .refl _
  | succ n ih =>
    cases hstep : r.step (.idle E) with
    | none =>
      rw [advance_succ_of_none hstep]
      exact .refl _
    | some r' =>
      rw [advance_succ_of_some hstep]
      exact (precedes_step hstep).trans (ih r')

end Run

end Telemetry.Events
