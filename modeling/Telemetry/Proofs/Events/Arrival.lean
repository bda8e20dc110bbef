import Telemetry.Proofs.Events.Milestones

/-!
# Synthetic batches keep the order of their arrival

The backlog is a queue that batches may return to: a batch whose send has failed goes back to
its front, after other harvests, inside that send, may have sent, queued, dropped and returned
batches of their own. The order survives, because the sends in progress are nested. The
reservoirs that they keep out of the queue, the outermost first, and the queue after them, always
stand in the order in which they were harvested (`Run.IsInOrder`).

* `Run.IsInOrder.advance` is the invariant of the queue.
* `Run.exists_capacity` is its bound: a capacity that was once in force. A lowered capacity
  drops nothing, so the present one may be exceeded.
* `Run.Delivers.advance` is about the batches delivered. Their order is that of the harvests as
  long as no steps run inside sends (`Run.IsSequential`): then at most one batch is out of the
  queue, and it comes before all that wait there.

`Run.queue_sublist_harvested` has all of it, for every run.
-/

namespace Telemetry.Events

open Sampling (HasPriority)

variable {E P S : Type}

/-! ### Reading milestones -/

namespace Milestone

/-- The reservoir that was harvested. -/
def harvested? : Milestone E → Option Ref
  | .harvested _ ref => some ref
  | _ => none

/-- The synthetic send that succeeded. -/
def delivered? : Milestone E → Option (Flight E)
  | .answered .synthetic flight _ => if flight.outcome.isNone then some flight else none
  | _ => none

end Milestone

/-- The synthetic reservoirs harvested, earliest first. -/
def harvestedRefs (past : List (Milestone E)) : List Ref := past.filterMap Milestone.harvested?

/-- The successful synthetic sends, earliest first. -/
def deliveredFlights (past : List (Milestone E)) : List (Flight E) :=
  past.filterMap Milestone.delivered?

/-- The reservoirs that sends in progress keep out of the queue, the outermost send first. -/
def underway (sends : List (Kind × Flight E)) : List Ref :=
  (sends.flatMap fun send => refsOf send.1 send.2.ref).reverse

section Reading

variable {past : List (Milestone E)}

theorem harvestedRefs_append (past past' : List (Milestone E)) :
    harvestedRefs (past ++ past') = harvestedRefs past ++ harvestedRefs past' :=
  List.filterMap_append ..

theorem deliveredFlights_append (past past' : List (Milestone E)) :
    deliveredFlights (past ++ past') = deliveredFlights past ++ deliveredFlights past' :=
  List.filterMap_append ..

theorem underway_cons (kind : Kind) (flight : Flight E) (sends : List (Kind × Flight E)) :
    underway ((kind, flight) :: sends) = underway sends ++ refsOf kind flight.ref := by
  rw [underway, List.flatMap_cons, List.reverse_append]
  cases kind <;> rfl

end Reading

namespace Run

variable {r r' : Run E P S}

/-- The synthetic batches delivered, latest first. -/
def deliveredSynthetic (r : Run E P S) : List (Batch E) :=
  (r.delivered.filter fun b => b.1 = .synthetic).map (·.2)

/-! ### Order -/

/-- **The queue stands in order**, whatever is put before it: a step at most takes something out
of the sends in progress and the queue after them, and what it adds has just been harvested. -/
theorem Passes.sublist {milestone : Option (Milestone E)} (h : r.Passes r.sends r' milestone)
    (front : List Ref) {harvested : List Ref}
    (hsub : (front ++ underway r.sends ++ r.service.backlog.queue).Sublist harvested) :
    (front ++ underway r'.sends ++ r'.service.backlog.queue).Sublist
      (harvested ++ harvestedRefs milestone.toList) := by
  have hnothing : harvested ++ harvestedRefs ([] : List (Milestone E)) = harvested :=
    List.append_nil _
  -- a send that is over is at most taken out
  have hover : ∀ {kind flight rest}, r.sends = (kind, flight) :: rest →
      (front ++ underway rest ++ r.service.backlog.queue).Sublist harvested := by
    intro kind flight rest hsends
    refine List.Sublist.trans ?_ hsub
    rw [hsends, underway_cons, ← List.append_assoc]
    exact (List.sublist_append_left _ _).append (List.Sublist.refl _)
  cases h with
  | idle h =>
    rw [h.sends, h.queue]
    exact hnothing.symm ▸ hsub
  | launched hf hqueue hstack h =>
    rw [h.sends, h.queue, underway_cons, ← List.append_assoc, List.append_assoc _ (refsOf _ _),
      ← hqueue]
    exact hnothing.symm ▸ hsub
  | queued hsealed hroom h =>
    rw [h.sends, h.queue, ← List.append_assoc]
    exact hsub.append (List.Sublist.refl _)
  | refused hsealed h =>
    rw [h.sends, h.queue]
    exact hsub.trans (List.sublist_append_left _ _)
  | landed hsends hout h =>
    rw [h.sends, h.queue]
    exact hnothing.symm ▸ hover hsends
  | requeued hsends hout hroom h =>
    rw [hsends, underway_cons, ← List.append_assoc, List.append_assoc _ (refsOf _ _)] at hsub
    rw [h.sends, h.queue]
    exact hnothing.symm ▸ hsub
  | overflowed hsends hout hlast h =>
    rw [hsends, underway_cons, ← List.append_assoc, List.append_assoc _ (refsOf _ _)] at hsub
    rw [h.sends, h.queue]
    refine hnothing.symm ▸ List.Sublist.trans ?_ hsub
    rw [show refsOf .synthetic _ ++ r.service.backlog.queue = _ from hlast, ← List.append_assoc]
    exact List.sublist_append_left _ _
  | failed hsends hout hkept h =>
    rw [h.sends, h.queue]
    exact hnothing.symm ▸ hover hsends

/-- **The invariant of the queue**, with the milestones passed so far: what was harvested is
sealed and was harvested once, and what is left of it stands in that order. -/
structure IsInOrder (r : Run E P S) (past : List (Milestone E)) : Prop where
  hasSealed : ∀ ref ∈ harvestedRefs past, r.service.HasSealed ref
  nodup : (harvestedRefs past).Nodup
  sublist : (underway r.sends ++ r.service.backlog.queue).Sublist (harvestedRefs past)

theorem Passes.hasSealed {sends : List (Kind × Flight E)} {milestone : Option (Milestone E)}
    (h : r.Passes sends r' milestone) :
    ∀ ref ∈ harvestedRefs milestone.toList, r'.service.HasSealed ref := by
  intro ref hm
  cases h with
  | queued hsealed hroom h => rwa [List.mem_singleton.1 hm]
  | refused hsealed h => rwa [List.mem_singleton.1 hm]
  | _ => exact absurd hm List.not_mem_nil

section Runs

variable {r r' : Run E Empty Unit} {past : List (Milestone E)}

/-- A live reservoir is open, so it has not been harvested before. -/
theorem IsInOrder.not_mem (h : r.IsInOrder past) (hs : r.Sound 0) {app : String} {ref : Ref}
    (hnext : r.milestone? = some (.harvested app ref)) : ref ∉ harvestedRefs past := by
  intro hbefore
  have hopen := hs.service.isOpen (live_of_milestone? hnext)
  rw [(h.hasSealed ref hbefore).2] at hopen
  exact Bool.false_ne_true hopen.symm

section Order

variable [HasPriority E]

/-- A step keeps the invariant of a run. -/
theorem Sound.next (hs : r.Sound 0) (hstep : r.step (.idle E) = some r') : r'.Sound 0 := by
  have hkept : Kept (fun _ => ()) False _ r 0 r' 0 := hs.step rfl hstep
  exact hkept.sound

theorem IsInOrder.step (h : r.IsInOrder past) (hs : r.Sound 0)
    (hstep : r.step (.idle E) = some r') : r'.IsInOrder (past ++ r.milestone?.toList) := by
  have hpasses := hs.passes_step hstep
  refine ⟨fun ref hm => ?_, ?_, ?_⟩
  · rw [harvestedRefs_append] at hm
    rcases List.mem_append.1 hm with hm | hm
    · exact (h.hasSealed ref hm).precedes (precedes_step hstep)
    · exact hpasses.hasSealed ref hm
  · rw [harvestedRefs_append]
    cases hnext : r.milestone? with
    | none => exact (List.append_nil _).symm ▸ h.nodup
    | some milestone =>
      cases milestone with
      | answered kind flight kept => exact (List.append_nil _).symm ▸ h.nodup
      | harvested app ref =>
        refine List.Nodup.append h.nodup (List.nodup_singleton ref) ?_
        exact List.disjoint_singleton.2 (h.not_mem hs hnext)
  · rw [harvestedRefs_append]
    exact hpasses.sublist [] h.sublist

theorem IsInOrder.advance (h : r.IsInOrder past) (hs : r.Sound 0) (n : Nat) :
    (r.advance (.idle E) n).IsInOrder (past ++ r.milestones (.idle E) n) := by
  induction n generalizing r past with
  | zero => exact (List.append_nil past).symm ▸ h
  | succ n ih =>
    cases hstep : r.step (.idle E) with
    | none =>
      rw [advance_succ_of_none hstep, milestones_succ_of_none hstep, List.append_nil]
      exact h
    | some r' =>
      rw [advance_succ_of_some hstep, milestones_succ_of_some hstep, ← List.append_assoc]
      exact ih (h.step hs hstep) (hs.next hstep)

end Order

/-! ### The bound -/

/-- A capacity bounds the queue, and lets a batch wait if one has waited. -/
def Suffices (capacity : Nat) (r : Run E Empty Unit) : Prop :=
  r.service.backlog.size ≤ capacity ∧ (underway r.sends ≠ [] → 1 ≤ capacity)

section Bound

variable [HasPriority E]

/-- **A capacity goes on to suffice**, or the present one does. -/
theorem Suffices.step {capacity : Nat} (h : r.Suffices capacity) (hs : r.Sound 0)
    (hstep : r.step (.idle E) = some r') :
    r'.Suffices capacity ∨ r'.Suffices r.service.backlog.capacity := by
  obtain ⟨hsize, hsome⟩ := h
  have hpasses := hs.passes_step hstep
  have hover : ∀ {kind flight rest}, r.sends = (kind, flight) :: rest → underway rest ≠ [] →
      1 ≤ capacity := by
    intro kind flight rest hsends hne
    refine hsome fun hnil => hne ?_
    rw [hsends, underway_cons] at hnil
    exact (List.append_eq_nil_iff.1 hnil).1
  have hsent : ∀ {flight rest}, r.sends = (.synthetic, flight) :: rest → 1 ≤ capacity := by
    intro flight rest hsends
    refine hsome fun hnil => ?_
    rw [hsends, underway_cons] at hnil
    exact List.cons_ne_nil _ _ (List.append_eq_nil_iff.1 hnil).2
  unfold Suffices
  rw [Backlog.size] at hsize ⊢
  generalize r.milestone? = milestone at hpasses
  cases hpasses with
  | idle h =>
    rw [h.queue, h.sends]
    exact .inl ⟨hsize, hsome⟩
  | @launched kind flight queue f below hf hqueue hstack h =>
    rw [hqueue, List.length_append] at hsize
    rw [h.queue, h.sends, underway_cons]
    refine .inl ⟨by omega, fun hne => ?_⟩
    cases kind with
    | synthetic => exact Nat.le_trans (Nat.le_add_right 1 _) hsize
    | ordinary => exact hsome fun hnil => hne ((List.append_nil _).trans hnil)
  | queued hsealed hroom h =>
    rw [Backlog.size] at hroom
    rw [h.queue, h.sends, List.length_append, List.length_singleton]
    exact .inr ⟨hroom, fun _ => by omega⟩
  | refused hsealed h =>
    rw [h.queue, h.sends]
    exact .inl ⟨hsize, hsome⟩
  | landed hsends hout h =>
    rw [h.queue, h.sends]
    exact .inl ⟨hsize, hover hsends⟩
  | requeued hsends hout hroom h =>
    -- with no capacity at all, it may return to an empty queue
    have hone := hsent hsends
    rw [Backlog.size] at hroom
    rw [h.queue, List.length_cons]
    by_cases hzero : r.service.backlog.capacity = 0
    · exact .inl ⟨by omega, fun _ => hone⟩
    · exact .inr ⟨by omega, fun _ => by omega⟩
  | overflowed hsends hout hlast h =>
    have hlength := congrArg List.length hlast
    rw [List.length_cons, List.length_append, List.length_singleton] at hlength
    rw [h.queue]
    exact .inl ⟨by omega, fun _ => hsent hsends⟩
  | failed hsends hout hkept h =>
    rw [h.queue, h.sends]
    exact .inl ⟨hsize, hover hsends⟩

/-- **The queue is never longer than a capacity that was in force.** -/
theorem exists_capacity (h : r.Suffices r.service.backlog.capacity) (hs : r.Sound 0) (n : Nat) :
    ∃ m ≤ n, (r.advance (.idle E) n).Suffices
      (r.advance (.idle E) m).service.backlog.capacity := by
  induction n with
  | zero => exact ⟨0, Nat.le_refl 0, h⟩
  | succ n ih =>
    obtain ⟨m, hle, hsuffices⟩ := ih
    have hsound : (r.advance (.idle E) n).Sound 0 := by
      have hkept : Kept (fun _ => ()) False _ r 0 (r.advance (.idle E) n) 0 := hs.advance rfl n
      exact hkept.sound
    rw [advance_add]
    cases hstep : (r.advance (.idle E) n).step (.idle E) with
    | none =>
      rw [advance_succ_of_none hstep]
      exact ⟨m, Nat.le_succ_of_le hle, hsuffices⟩
    | some r' =>
      rw [advance_succ_of_some hstep]
      rcases hsuffices.step hsound hstep with hbefore | hnow
      · exact ⟨m, Nat.le_succ_of_le hle, hbefore⟩
      · exact ⟨n, Nat.le_succ n, hnow⟩

end Bound

/-! ### The order of delivery -/

/-- A stack with one send at most, which is over before anything else is resumed. -/
inductive IsSingle : List (Frame E Empty) → Prop
  | idle {stack : List (Frame E Empty)} (hnone : stack.filterMap Frame.send? = []) : IsSingle stack
  | answered {f : Frame E Empty} {send : Kind × Flight E} {below : List (Frame E Empty)}
      (hf : f.send? = some send) (hbelow : below.filterMap Frame.send? = []) :
      IsSingle (f :: below)
  | sending {f : Frame E Empty} {send : Kind × Flight E} {below : List (Frame E Empty)}
      (hf : f.send? = some send) (hbelow : below.filterMap Frame.send? = []) :
      IsSingle (.steps [] :: f :: below)

/-- **No steps run inside sends**. -/
structure IsSequential (r : Run E Empty Unit) : Prop where
  planned : ∀ reply ∈ r.transport.planned, reply.during = []
  stack : IsSingle r.stack

theorem IsSingle.tail {stack : List (Frame E Empty)} (h : IsSingle stack) {send : Kind × Flight E}
    {rest : List (Kind × Flight E)} (hsends : stack.filterMap Frame.send? = send :: rest) :
    rest = [] := by
  cases h with
  | idle hnone =>
    rw [hnone] at hsends
    nomatch hsends
  | answered hf hbelow =>
    rw [List.filterMap_cons_some hf, hbelow] at hsends
    exact (List.cons.inj hsends).2.symm
  | sending hf hbelow =>
    rw [List.filterMap_cons_none rfl, List.filterMap_cons_some hf, hbelow] at hsends
    exact (List.cons.inj hsends).2.symm

/-- What is sent next runs no steps inside the send. -/
theorem IsSequential.during_send (h : r.IsSequential) (batch : Batch E) :
    (r.transport.send batch).1.during = [] := by
  rw [Transport.send]
  split
  next reply rest hplanned => exact h.planned reply (hplanned ▸ List.mem_cons_self)
  next => rfl

theorem Passes.planned {sends : List (Kind × Flight E)} {milestone : Option (Milestone E)}
    (h : r.Passes sends r' milestone) :
    ∀ reply ∈ r'.transport.planned, reply ∈ r.transport.planned := by
  cases h with
  | _ => exact Traffic.planned ‹_›

/-- An outcome that comes back ends the latest send. -/
theorem Passes.sends_of_answered {sends : List (Kind × Flight E)} {kind : Kind} {flight : Flight E}
    {kept : Bool} (h : r.Passes sends r' (some (.answered kind flight kept))) :
    sends = (kind, flight) :: r'.sends := by
  cases h with
  | landed hsends hout h => rw [hsends, h.sends]
  | requeued hsends hout hroom h => rw [hsends, h.sends]
  | overflowed hsends hout hlast h => rw [hsends, h.sends]
  | failed hsends hout hkept h => rw [hsends, h.sends]

/-- The send on top of the stack is answered next. -/
theorem milestone?_of_send? {f : Frame E Empty} {below : List (Frame E Empty)}
    (hstack : r.stack = f :: below) {send : Kind × Flight E} (hf : f.send? = some send) :
    ∃ kept, r.milestone? = some (.answered send.1 send.2 kept) := by
  rw [milestone?, hstack]
  cases f with
  | settleSynthetic app budget flight =>
    obtain rfl := Option.some.inj hf
    exact ⟨_, rfl⟩
  | settleOrdinary app flight =>
    obtain rfl := Option.some.inj hf
    exact ⟨_, rfl⟩
  | _ => cases hf

/-- While no send is in progress, a step at most begins one, with nothing to run inside it. -/
theorem IsSequential.isSingle_of_sends_eq_nil (h : r.IsSequential) (hnone : r.sends = [])
    {milestone : Option (Milestone E)} (hpasses : r.Passes r.sends r' milestone) :
    IsSingle r'.stack := by
  rw [hnone] at hpasses
  cases hpasses with
  | idle h => exact .idle h.sends
  | launched hf hqueue hstack htraffic =>
    have hsends := htraffic.sends
    rw [h.during_send] at hstack
    rw [sends, hstack, List.filterMap_cons_none rfl, List.filterMap_cons_some hf] at hsends
    rw [hstack]
    exact .sending hf (List.cons.inj hsends).2
  | queued hsealed hroom h => exact .idle h.sends
  | refused hsealed h => exact .idle h.sends
  | landed hsends hout h => cases hsends
  | requeued hsends hout hroom h => cases hsends
  | overflowed hsends hout hlast h => cases hsends
  | failed hsends hout hkept h => cases hsends

/-- **What has been delivered**, in a run without steps inside sends: it comes before the batch
being sent and those that wait, in the order in which they were harvested. -/
structure Delivers (r : Run E Empty Unit) (past : List (Milestone E)) : Prop where
  isSequential : r.IsSequential
  batches : r.deliveredSynthetic = ((deliveredFlights past).map (·.batch)).reverse
  sublist : ((deliveredFlights past).map (·.ref) ++ underway r.sends ++
    r.service.backlog.queue).Sublist (harvestedRefs past)

theorem deliveredSynthetic_of_nil (h : r'.delivered = r.delivered) :
    r'.deliveredSynthetic = r.deliveredSynthetic := by
  rw [deliveredSynthetic, deliveredSynthetic, h]

/-- A step delivers no synthetic batch, or the one that is being sent. -/
theorem Passes.delivered_cases {milestone : Option (Milestone E)}
    (h : r.Passes r.sends r' milestone) :
    (deliveredFlights milestone.toList = [] ∧ r'.deliveredSynthetic = r.deliveredSynthetic) ∨
      ∃ flight, deliveredFlights milestone.toList = [flight] ∧
        harvestedRefs milestone.toList = [] ∧
        r'.deliveredSynthetic = flight.batch :: r.deliveredSynthetic ∧
        r.sends = (.synthetic, flight) :: r'.sends ∧
        r'.service.backlog.queue = r.service.backlog.queue := by
  have hfailed : ∀ {kind flight kept}, flight.outcome ≠ none →
      deliveredFlights [.answered kind flight kept] = ([] : List (Flight E)) := by
    intro kind flight kept hout
    cases hsome : flight.outcome with
    | none => exact absurd hsome hout
    | some error => cases kind <;> simp [deliveredFlights, Milestone.delivered?, hsome]
  cases h with
  | @landed kind flight rest hsends hout h =>
    cases kind with
    | ordinary =>
      refine .inl ⟨rfl, ?_⟩
      rw [deliveredSynthetic, h.delivered]
      rfl
    | synthetic =>
      refine .inr ⟨flight, ?_, rfl, ?_, by rw [hsends, h.sends], h.queue⟩
      · simp [deliveredFlights, Milestone.delivered?, hout]
      · rw [deliveredSynthetic, h.delivered]
        rfl
  | requeued hsends hout hroom h =>
    exact .inl ⟨hfailed hout, deliveredSynthetic_of_nil h.delivered⟩
  | overflowed hsends hout hlast h =>
    exact .inl ⟨hfailed hout, deliveredSynthetic_of_nil h.delivered⟩
  | failed hsends hout hkept h =>
    exact .inl ⟨hfailed hout, deliveredSynthetic_of_nil h.delivered⟩
  | idle h => exact .inl ⟨rfl, deliveredSynthetic_of_nil h.delivered⟩
  | launched hf hqueue hstack h => exact .inl ⟨rfl, deliveredSynthetic_of_nil h.delivered⟩
  | queued hsealed hroom h => exact .inl ⟨rfl, deliveredSynthetic_of_nil h.delivered⟩
  | refused hsealed h => exact .inl ⟨rfl, deliveredSynthetic_of_nil h.delivered⟩

section Delivery

variable [HasPriority E]

theorem IsSequential.step (h : r.IsSequential) (hs : r.Sound 0)
    (hstep : r.step (.idle E) = some r') : r'.IsSequential := by
  have hpasses := hs.passes_step hstep
  refine ⟨fun reply hm => h.planned reply (hpasses.planned reply hm), ?_⟩
  obtain ⟨f, rest, hstack, hresume⟩ := step_eq_some_iff.1 hstep
  have hsingle := h.stack
  rw [hstack] at hsingle
  cases hsingle with
  | idle hnone =>
    have hsends : r.sends = [] := by rw [sends, hstack, hnone]
    exact h.isSingle_of_sends_eq_nil hsends hpasses
  | answered hf hbelow =>
    obtain ⟨kept, hmilestone⟩ := milestone?_of_send? hstack hf
    rw [hmilestone] at hpasses
    exact .idle (h.stack.tail hpasses.sends_of_answered)
  | sending hf hbelow =>
    rw [← hresume]
    exact .answered hf hbelow

theorem Delivers.step (h : r.Delivers past) (hs : r.Sound 0)
    (hstep : r.step (.idle E) = some r') : r'.Delivers (past ++ r.milestone?.toList) := by
  have hpasses := hs.passes_step hstep
  refine ⟨h.isSequential.step hs hstep, ?_, ?_⟩
  all_goals rw [deliveredFlights_append]
  · rcases hpasses.delivered_cases with ⟨hnone, hbatches⟩ | ⟨flight, hone, -, hbatches, -⟩
    · rw [hnone, hbatches, List.append_nil, h.batches]
    · rw [hone, hbatches, List.map_append, List.reverse_append, h.batches]
      rfl
  · rcases hpasses.delivered_cases with
      ⟨hnone, -⟩ | ⟨flight, hone, hharvested, -, hsends, hqueue⟩
    · rw [hnone, List.append_nil, harvestedRefs_append]
      exact hpasses.sublist _ h.sublist
    · -- the only batch out of the queue comes before all that wait
      have hlast : r'.sends = [] := h.isSequential.stack.tail hsends
      have hsub := h.sublist
      rw [hsends, hlast] at hsub
      have hnone : underway ([] : List (Kind × Flight E)) = [] := rfl
      rw [hone, harvestedRefs_append, hharvested, hlast, hqueue, hnone, List.append_nil,
        List.append_nil, List.map_append]
      exact hsub

theorem Delivers.advance (h : r.Delivers past) (hs : r.Sound 0) (n : Nat) :
    (r.advance (.idle E) n).Delivers (past ++ r.milestones (.idle E) n) := by
  induction n generalizing r past with
  | zero => exact (List.append_nil past).symm ▸ h
  | succ n ih =>
    cases hstep : r.step (.idle E) with
    | none =>
      rw [advance_succ_of_none hstep, milestones_succ_of_none hstep, List.append_nil]
      exact h
    | some r' =>
      rw [advance_succ_of_some hstep, milestones_succ_of_some hstep, ← List.append_assoc]
      exact ih (h.step hs hstep) (hs.next hstep)

end Delivery

/-! ### Every run -/

theorem isInOrder_fresh (settings : Config.Settings) (transport : Transport E Empty)
    (steps : List (Step E Empty)) (random : Random.Source) :
    (fresh settings transport steps random).IsInOrder [] :=
  ⟨fun _ hm => absurd hm List.not_mem_nil, List.nodup_nil, List.nil_sublist _⟩

theorem delivers_fresh (settings : Config.Settings) {transport : Transport E Empty}
    (hplanned : ∀ reply ∈ transport.planned, reply.during = []) (steps : List (Step E Empty))
    (random : Random.Source) : (fresh settings transport steps random).Delivers [] :=
  ⟨⟨hplanned, .idle rfl⟩, rfl, List.nil_sublist _⟩

/-- **Synthetic batches keep the order of their arrival.** At every point of every run of a new
service, the reservoirs that wait are distinct and stand in the order in which they were
harvested, and they are no more than a capacity of the backlog that was in force so far. If no
steps run inside sends, the synthetic batches delivered stand in that order, too. -/
theorem queue_sublist_harvested [HasPriority E] (settings : Config.Settings)
    (transport : Transport E Empty) (steps : List (Step E Empty)) (random : Random.Source)
    (n : Nat) :
    let first := fresh settings transport steps random
    let r := first.advance (.idle E) n
    let past := first.milestones (.idle E) n
    r.service.backlog.queue.Nodup ∧
      (harvestedRefs past).Nodup ∧ r.service.backlog.queue.Sublist (harvestedRefs past) ∧
      (∃ m ≤ n, r.service.backlog.size ≤
        (first.advance (.idle E) m).service.backlog.capacity) ∧
      ((∀ reply ∈ transport.planned, reply.during = []) →
        r.deliveredSynthetic.reverse = (deliveredFlights past).map (·.batch) ∧
        ((deliveredFlights past).map (·.ref)).Sublist (harvestedRefs past)) := by
  intro first r past
  have hs : first.Sound 0 := sound_fresh settings transport steps random
  have hinOrder : r.IsInOrder past := (isInOrder_fresh settings transport steps random).advance hs n
  have hqueue : r.service.backlog.queue.Sublist (harvestedRefs past) :=
    (List.sublist_append_right _ _).trans hinOrder.sublist
  refine ⟨hqueue.nodup hinOrder.nodup, hinOrder.nodup, hqueue, ?_, fun hplanned => ?_⟩
  · have hnow : first.Suffices first.service.backlog.capacity :=
      ⟨Nat.zero_le _, fun hne => absurd rfl hne⟩
    obtain ⟨m, hle, hsuffices⟩ := exists_capacity hnow hs n
    exact ⟨m, hle, hsuffices.1⟩
  · have hdelivers : r.Delivers past :=
      (delivers_fresh settings hplanned steps random).advance hs n
    refine ⟨?_, ?_⟩
    · rw [hdelivers.batches, List.reverse_reverse]
    · refine List.Sublist.trans ?_ hdelivers.sublist
      rw [List.append_assoc]
      exact List.sublist_append_left _ _

end Runs

open Simulation (Event) in
/-- A transaction of a synthetic monitor. -/
def visit (name : String) (priority : Float) : Work Event where
  event := ⟨name, 1, priority, true⟩
  name := name
  priority := priority
  isSynthetic := true

open Simulation (Event) in
/-- A run in which the first synthetic batch fails in passing, and is sent again, after its own
application has been harvested, by the harvest of another one. -/
def returningRun : Run Event Empty Unit :=
  fresh {} { planned := [⟨some (.transient "down"), []⟩] }
    [.record "a" (visit "first" 0.5) [] [], .record "b" (visit "second" 0.5) [] [], .harvest "a",
      .harvest "b"] (.ofSeed 0)

open Simulation (Event) in
theorem deliveredSynthetic_returningRun :
    let r := returningRun.advance (.idle _) 40
    let past := returningRun.milestones (.idle _) 40
    r.deliveredSynthetic.reverse.map (·.app) = ["a", "b"] ∧
      ((deliveredFlights past).map (·.ref)).Sublist (harvestedRefs past) ∧
      harvestedRefs past = [0, 1] := by
  intro r past
  have hplanned : ∀ reply ∈ [(⟨some (.transient "down"), []⟩ : Reply Event Empty)],
      reply.during = [] := fun reply hm => by rw [List.mem_singleton.1 hm]
  exact ⟨by decide +kernel, ((queue_sublist_harvested _ _ _ _ 40).2.2.2.2 hplanned).2,
    by decide +kernel⟩

end Run

end Telemetry.Events
