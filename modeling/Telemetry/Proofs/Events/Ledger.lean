import Telemetry.Proofs.Events.Accounts
import Telemetry.Proofs.Events.Arrival

/-!
# The counters are exact

What a run counts can be told from its batches, and the other way round. The *ledger* of a run
are its deliveries, the amounts added to counters, and its milestones. They are posted together,
step by step, so that for every application

| counter | tells |
|---|---|
| `events.transaction.sent` | the events in its ordinary batches delivered |
| `events.transaction.seen` | the tries of those batches |
| `events.synthetics.sent` | the events in its synthetic batches delivered |
| `events.harvest.retried`, ordinary | its failed ordinary batches that were kept |
| `events.harvest.discarded`, ordinary | its failed ordinary batches that were not |

That is `Run.Posts`. For synthetic reservoirs there is a balance besides, `Run.Balances`: each one
that was harvested has been delivered, discarded or dropped, or is in the backlog, or is being
sent. Each kind of passage keeps it, since what it posts evens out (`Run.EvensOut`). Both need that
nothing is done in the background, where counters do not show.
-/

namespace Telemetry.Events

open Sampling (HasPriority)

variable {E P S : Type}

/-! ### Sums over a ledger -/

/-- What the counter of a name, with the given tags, has come to. -/
def counterOf (name : String) (tags : List (String × String)) (counts : List Count) : Int :=
  ((counts.filter fun c => c.1 = name ∧ c.2.1 = tags).map (·.2.2)).sum

/-- The batches of a kind that were delivered for an application, latest first. -/
def batchesOf (kind : Kind) (app : String) (delivered : List (Kind × Batch E)) : List (Batch E) :=
  (delivered.filter fun b => b.1 = kind ∧ b.2.app = app).map (·.2)

/-- Whether a batch of an application has failed, and was kept for another attempt or not. -/
def Milestone.isFailure (kind : Kind) (app : String) (kept : Bool) : Milestone E → Bool
  | .answered kind' flight kept' =>
    kind' = kind && flight.batch.app = app && flight.outcome.isSome && kept' == kept
  | _ => false

/-- Whether a synthetic reservoir of an application has been harvested. -/
def Milestone.isHarvest (app : String) : Milestone E → Bool
  | .harvested app' _ => app' = app
  | _ => false

theorem countP_harvested (app app' : String) (ref : Ref) :
    [(.harvested app' ref : Milestone E)].countP (Milestone.isHarvest app) =
      if app' = app then 1 else 0 := by
  simp [Milestone.isHarvest, List.countP_singleton]

theorem countP_answered (app : String) (kind : Kind) (flight : Flight E) (kept : Bool) :
    [Milestone.answered kind flight kept].countP (Milestone.isHarvest app) = 0 := rfl

section Sums

variable {name : String} {tags : List (String × String)} {kind : Kind} {app : String}

theorem counterOf_append (counts counts' : List Count) :
    counterOf name tags (counts ++ counts') =
      counterOf name tags counts + counterOf name tags counts' := by
  rw [counterOf, List.filter_append, List.map_append, List.sum_append]
  rfl

theorem batchesOf_append (delivered delivered' : List (Kind × Batch E)) :
    batchesOf kind app (delivered ++ delivered') =
      batchesOf kind app delivered ++ batchesOf kind app delivered' := by
  rw [batchesOf, List.filter_append, List.map_append]
  rfl

theorem counterOf_singleton (c : Count) :
    counterOf name tags [c] = if c.1 = name ∧ c.2.1 = tags then c.2.2 else 0 := by
  rw [counterOf, List.filter_singleton]
  by_cases h : c.1 = name ∧ c.2.1 = tags <;> simp [h]

end Sums

namespace Run

/-! ### Postings -/

/-- Something that a counter tells of an application. -/
inductive Account
  /-- The events in ordinary batches. -/
  | sent
  /-- The tries of ordinary batches. -/
  | seen
  /-- The events in synthetic batches. -/
  | synthetic
  /-- The failed ordinary batches, kept for another attempt or not. -/
  | failed (kept : Bool)

namespace Account

/-- The name of the counter. -/
def name : Account → String
  | .sent => "events.transaction.sent"
  | .seen => "events.transaction.seen"
  | .synthetic => "events.synthetics.sent"
  | .failed true => "events.harvest.retried"
  | .failed false => "events.harvest.discarded"

/-- The tags of the counter. -/
def tags (app : String) : Account → List (String × String)
  | .failed _ => kindTags app .ordinary
  | _ => [appTag app]

/-- What the counter should have come to, by what was delivered and by the milestones. -/
def worth (app : String) (delivered : List (Kind × Batch E)) (past : List (Milestone E)) :
    Account → Nat
  | .sent => ((batchesOf .ordinary app delivered).map fun b => b.events.length).sum
  | .seen => ((batchesOf .ordinary app delivered).map fun b => b.tries).sum
  | .synthetic => ((batchesOf .synthetic app delivered).map fun b => b.events.length).sum
  | .failed kept => past.countP (Milestone.isFailure .ordinary app kept)

theorem worth_append (app : String) (delivered delivered' : List (Kind × Batch E))
    (past past' : List (Milestone E)) (account : Account) :
    account.worth app (delivered' ++ delivered) (past ++ past') =
      account.worth app delivered past + account.worth app delivered' past' := by
  cases account <;>
    simp only [worth, batchesOf_append, List.map_append, List.sum_append, List.countP_append,
      Nat.add_comm]

end Account

/-- **The deliveries, the counts and the milestones of an application agree.** -/
def Posts (app : String) (delivered : List (Kind × Batch E)) (counts : List Count)
    (past : List (Milestone E)) : Prop :=
  ∀ account : Account, counterOf account.name (account.tags app) counts =
    account.worth app delivered past

variable {r r' : Run E P S} {app : String} {delivered delivered' : List (Kind × Batch E)}
  {counts counts' : List Count} {past past' : List (Milestone E)}

theorem Posts.append (h : Posts app delivered counts past)
    (h' : Posts app delivered' counts' past') :
    Posts app (delivered' ++ delivered) (counts' ++ counts) (past ++ past') := by
  intro account
  rw [counterOf_append, Account.worth_append, h account, h' account, Int.natCast_add, Int.add_comm]

theorem posts_nil (app : String) : Posts app ([] : List (Kind × Batch E)) [] [] := by
  intro account
  cases account <;> rfl

theorem posts_harvested (app app' : String) (ref : Ref) :
    Posts app ([] : List (Kind × Batch E)) [] [.harvested app' ref] := by
  intro account
  cases account <;> rfl

theorem posts_dropped (app app' : String) :
    Posts app ([] : List (Kind × Batch E)) [droppedCount app'] [] := by
  intro account
  rw [counterOf_singleton, if_neg]
  · cases account <;> rfl
  · rintro ⟨hname, -⟩
    change "events.synthetics.dropped" = account.name at hname
    rcases account with _ | _ | _ | ⟨_ | _⟩ <;> exact absurd hname (by decide)

/-- A delivery tells nothing about failures. -/
theorem posts_landed (app : String) (kind : Kind) {flight : Flight E} {kept : Bool}
    (hout : flight.outcome = none) :
    Posts app [(kind, flight.batch)] (landedCounts flight.batch kind)
      [.answered kind flight kept] := by
  intro account
  by_cases happ : flight.batch.app = app
  all_goals
    cases kind <;> rcases account with _ | _ | _ | ⟨_ | _⟩ <;>
      simp [landedCounts, counterOf, batchesOf, Account.name, Account.tags, Account.worth,
        Milestone.isFailure, appTag, kindTags, hout, happ]

theorem posts_failed (app : String) (kind : Kind) {flight : Flight E} {kept : Bool}
    (hout : flight.outcome ≠ none) :
    Posts app [] [failedCount kept flight.batch.app kind] [.answered kind flight kept] := by
  intro account
  obtain ⟨error, hsome⟩ := Option.ne_none_iff_exists'.1 hout
  by_cases happ : flight.batch.app = app
  all_goals
    cases kind <;> cases kept <;> rcases account with _ | _ | _ | ⟨_ | _⟩ <;>
      simp [failedCount, counterOf, batchesOf, Account.name, Account.tags, Account.worth,
        Milestone.isFailure, appTag, kindTags, Kind.name, hsome, happ]

/-- **A step posts what it passes.** -/
theorem Posts.step (h : Posts app r.delivered r.counts past) {milestone : Option (Milestone E)}
    (hpasses : r.Passes r.sends r' milestone) (hseen : r.inBackground = false) :
    Posts app r'.delivered r'.counts (past ++ milestone.toList) := by
  cases hpasses with
  | idle ht =>
    rw [ht.delivered, ht.counts hseen]
    exact h.append (posts_nil app)
  | launched hf hqueue hstack ht =>
    rw [ht.delivered, ht.counts hseen]
    exact h.append (posts_nil app)
  | @queued app' ref hsealed hroom ht =>
    rw [ht.delivered, ht.counts hseen]
    exact h.append (posts_harvested app app' ref)
  | @refused app' ref hsealed ht =>
    rw [ht.delivered, ht.counts hseen]
    exact h.append ((posts_harvested app app' ref).append (posts_dropped app app'))
  | landed hsends hout ht =>
    rw [ht.delivered, ht.counts hseen]
    exact h.append (posts_landed app _ hout)
  | requeued hsends hout hroom ht =>
    rw [ht.delivered, ht.counts hseen]
    exact h.append (posts_failed app _ hout)
  | overflowed hsends hout hlast ht =>
    rw [ht.delivered, ht.counts hseen]
    exact h.append ((posts_failed app _ hout).append (posts_dropped app _))
  | failed hsends hout hkept ht =>
    rw [ht.delivered, ht.counts hseen]
    exact h.append (posts_failed app _ hout)

/-! ### The balance of synthetic reservoirs -/

/-- How many synthetic reservoirs of an application are gone for good: delivered, discarded
after a failure, or dropped for want of room. -/
def gone (app : String) (delivered : List (Kind × Batch E)) (counts : List Count) : Int :=
  (batchesOf .synthetic app delivered).length +
    counterOf "events.harvest.discarded" (kindTags app .synthetic) counts +
    counterOf "events.synthetics.dropped" [appTag app] counts

theorem gone_append (app : String) (delivered delivered' : List (Kind × Batch E))
    (counts counts' : List Count) :
    gone app (delivered' ++ delivered) (counts' ++ counts) =
      gone app delivered counts + gone app delivered' counts' := by
  rw [gone, batchesOf_append, counterOf_append, counterOf_append, List.length_append, gone, gone]
  omega

theorem gone_nil (app : String) : gone app ([] : List (Kind × Batch E)) [] = 0 := rfl

theorem gone_dropped (app app' : String) :
    gone app ([] : List (Kind × Batch E)) [droppedCount app'] = if app' = app then 1 else 0 := by
  by_cases happ : app' = app <;>
    simp [gone, batchesOf, counterOf, droppedCount, appTag, happ]

theorem gone_failed (app app' : String) (kind : Kind) (kept : Bool) :
    gone app ([] : List (Kind × Batch E)) [failedCount kept app' kind] =
      if kind = .synthetic ∧ kept = false ∧ app' = app then 1 else 0 := by
  by_cases happ : app' = app <;> cases kind <;> cases kept <;>
    simp [gone, batchesOf, counterOf, failedCount, kindTags, appTag, Kind.name, happ]

theorem gone_landed (app : String) (kind : Kind) (batch : Batch E) :
    gone app [(kind, batch)] (landedCounts batch kind) =
      if kind = .synthetic ∧ batch.app = app then 1 else 0 := by
  by_cases happ : batch.app = app <;> cases kind <;>
    simp [gone, batchesOf, counterOf, landedCounts, appTag, happ]

end Run

/-- How many of some reservoirs belong to an application. -/
def Service.countFor (s : Service E) (app : String) (refs : List Ref) : Nat :=
  refs.countP fun ref => (s.reservoir ref).app = app

theorem Service.countFor_append (s : Service E) (app : String) (refs refs' : List Ref) :
    s.countFor app (refs ++ refs') = s.countFor app refs + s.countFor app refs' :=
  List.countP_append ..

theorem Service.countFor_singleton (s : Service E) (app : String) (ref : Ref) :
    s.countFor app [ref] = if (s.reservoir ref).app = app then 1 else 0 := by
  rw [countFor, List.countP_singleton]
  simp

/-- Reservoirs stay with their application. -/
theorem Service.Precedes.countFor {s s' : Service E} (h : s.Precedes s') {refs : List Ref}
    (hlt : ∀ ref ∈ refs, ref < s.pool.size) (app : String) :
    s'.countFor app refs = s.countFor app refs := by
  refine List.countP_congr fun ref hm => ?_
  have happ : (s'.reservoir ref).app = (s.reservoir ref).app :=
    congrArg (·.1) (h.grows.shell ref (hlt ref hm))
  rw [happ]

namespace Run

/-- The synthetic reservoirs that are being sent, or wait. -/
def onTheWay (r : Run E P S) : List Ref := underway r.sends ++ r.service.backlog.queue

variable {r r' : Run E Empty Unit} {app : String} {past : List (Milestone E)}

/-- **The balance of the synthetic reservoirs of an application**: each one harvested is gone for
good, or it waits or is being sent. -/
def Balances (app : String) (r : Run E Empty Unit) (past : List (Milestone E)) : Prop :=
  (past.countP (Milestone.isHarvest app) : Nat) =
    gone app r.delivered r.counts + (r.service.countFor app r.onTheWay : Nat)

theorem flights_eq_sends (r : Run E P S) : r.flights = r.sends.map (·.2) := by
  rw [flights, sends, List.map_filterMap]
  refine congrArg (fun g => r.stack.filterMap g) (funext fun f => ?_)
  cases f <;> rfl

/-- What is out of the queue for a send, or waits there, is set aside. -/
theorem mem_aside_of_mem {ref : Ref} (h : ref ∈ r.onTheWay) : ref ∈ r.aside := by
  rw [aside, Multiset.mem_add, Multiset.mem_coe, Multiset.mem_coe, flights_eq_sends]
  rcases List.mem_append.1 h with hm | hm
  · rw [underway, List.mem_reverse, List.mem_flatMap] at hm
    obtain ⟨⟨kind, flight⟩, hsend, href⟩ := hm
    cases kind with
    | ordinary => exact absurd href List.not_mem_nil
    | synthetic =>
      obtain rfl := List.mem_singleton.1 href
      exact .inr (List.mem_map.2 ⟨flight, List.mem_map.2 ⟨_, hsend, rfl⟩, rfl⟩)
  · exact .inl hm

/-- What is sent goes under the application of its reservoir. -/
theorem Sound.app_of_send (hs : r.Sound 0) {kind : Kind} {flight : Flight E}
    (hsend : (kind, flight) ∈ r.sends) :
    flight.batch.app = (r.service.reservoir flight.ref).app := by
  obtain ⟨f, hf, hfsend⟩ := List.mem_filterMap.1 hsend
  have hfits := hs.fits f hf
  cases f with
  | settleSynthetic app budget flight' =>
    obtain ⟨rfl, rfl⟩ := Prod.mk.inj (Option.some.inj hfsend)
    rw [hfits.1]
    rfl
  | settleOrdinary app flight' =>
    obtain ⟨rfl, rfl⟩ := Prod.mk.inj (Option.some.inj hfsend)
    rw [hfits.1]
    rfl
  | _ => nomatch hfsend

theorem Sound.lt_of_mem_onTheWay (hs : r.Sound 0) {ref : Ref} (h : ref ∈ r.onTheWay) :
    ref < r.service.pool.size :=
  hs.service.lt (Multiset.mem_add.2 (.inl (mem_aside_of_mem h)))

/-! ### What a step does to the balance -/

/-- **What happens to the synthetic reservoirs of an application evens out**: those on their way
before, with those harvested, are those that are gone by it and those on their way after. -/
def EvensOut (app : String) (delivered : List (Kind × Batch E)) (counts : List Count)
    (past : List (Milestone E)) (before after : Nat) : Prop :=
  (past.countP (Milestone.isHarvest app) : Int) + before = gone app delivered counts + after

section EvensOut

variable {before after : Nat} {kind : Kind} {flight : Flight E} {kept : Bool}

theorem evensOut_nil (app : String) (n : Nat) :
    EvensOut app ([] : List (Kind × Batch E)) [] [] n n := rfl

/-- A harvested reservoir that finds room waits. -/
theorem evensOut_queued (app app' : String) (ref : Ref)
    (h : after = before + if app' = app then 1 else 0) :
    EvensOut app ([] : List (Kind × Batch E)) [] [.harvested app' ref] before after := by
  rw [EvensOut, countP_harvested, gone_nil, h]
  push_cast
  omega

/-- A harvested reservoir that finds no room is dropped. -/
theorem evensOut_refused (app app' : String) (ref : Ref) (n : Nat) :
    EvensOut app ([] : List (Kind × Batch E)) [droppedCount app'] [.harvested app' ref] n n := by
  rw [EvensOut, countP_harvested, gone_dropped]
  split <;> rfl

theorem evensOut_landed (app : String) (kept : Bool)
    (h : before = after + if kind = .synthetic ∧ flight.batch.app = app then 1 else 0) :
    EvensOut app [(kind, flight.batch)] (landedCounts flight.batch kind)
      [.answered kind flight kept] before after := by
  rw [EvensOut, countP_answered, gone_landed, h]
  push_cast
  omega

/-- A batch that goes back into the queue waits again. -/
theorem evensOut_requeued (app : String) (flight : Flight E) (n : Nat) :
    EvensOut app [] [failedCount true flight.batch.app .synthetic]
      [.answered .synthetic flight true] n n := by
  rw [EvensOut, countP_answered, gone_failed, if_neg fun hcon => Bool.false_ne_true hcon.2.1.symm]
  rfl

/-- A batch that goes back into a full queue pushes the last one out. -/
theorem evensOut_overflowed (app last : String) (flight : Flight E)
    (h : before = after + if last = app then 1 else 0) :
    EvensOut app [] [droppedCount last, failedCount true flight.batch.app .synthetic]
      [.answered .synthetic flight true] before after := by
  have hlost : gone app ([] : List (Kind × Batch E))
      [droppedCount last, failedCount true flight.batch.app .synthetic] =
        if last = app then 1 else 0 := by
    refine (gone_append app [] [] [failedCount true flight.batch.app .synthetic]
      [droppedCount last]).trans ?_
    rw [gone_failed, if_neg fun hcon => Bool.false_ne_true hcon.2.1.symm, gone_dropped,
      Int.zero_add]
  rw [EvensOut, countP_answered, hlost, h]
  push_cast
  omega

/-- A synthetic batch that is not sent again is discarded. -/
theorem evensOut_failed (app : String) (hkept : kind = .synthetic → kept = false)
    (h : before = after + if kind = .synthetic ∧ flight.batch.app = app then 1 else 0) :
    EvensOut app [] [failedCount kept flight.batch.app kind] [.answered kind flight kept]
      before after := by
  have hiff : (kind = .synthetic ∧ kept = false ∧ flight.batch.app = app) ↔
      kind = .synthetic ∧ flight.batch.app = app :=
    ⟨fun h => ⟨h.1, h.2.2⟩, fun h => ⟨h.1, hkept h.1, h.2⟩⟩
  rw [EvensOut, countP_answered, gone_failed, if_congr hiff rfl rfl, h]
  push_cast
  omega

end EvensOut

/-- **What evens out keeps the balance.** -/
theorem Balances.traffic (h : r.Balances app past) (hs : r.Sound 0)
    (hprecedes : r.service.Precedes r'.service) (hseen : r.inBackground = false)
    {queue : List Ref} {sends : List (Kind × Flight E)} {delivered : List (Kind × Batch E)}
    {counts : List Count} (ht : r.Traffic r' queue sends delivered counts)
    {past' : List (Milestone E)}
    (hevens : EvensOut app delivered counts past' (r'.service.countFor app r.onTheWay)
      (r'.service.countFor app (underway sends ++ queue))) :
    r'.Balances app (past ++ past') := by
  rw [hprecedes.countFor (fun ref => hs.lt_of_mem_onTheWay), EvensOut] at hevens
  unfold Balances at h ⊢
  rw [List.countP_append, ht.delivered, ht.counts hseen, onTheWay, ht.sends, ht.queue,
    gone_append]
  push_cast at h hevens ⊢
  omega

/-- A synthetic reservoir is on its way until its send ends. -/
theorem Sound.countFor_onTheWay (hs : r.Sound 0) (hprecedes : r.service.Precedes r'.service)
    {kind : Kind} {flight : Flight E} {rest : List (Kind × Flight E)}
    (hsends : r.sends = (kind, flight) :: rest) (app : String) :
    r'.service.countFor app r.onTheWay =
      r'.service.countFor app (underway rest ++ r.service.backlog.queue) +
        if kind = .synthetic ∧ flight.batch.app = app then 1 else 0 := by
  have hsend : (kind, flight) ∈ r.sends := hsends ▸ List.mem_cons_self
  have hlt : ∀ ref ∈ refsOf kind flight.ref, ref < r.service.pool.size := fun ref hm => by
    refine hs.lt_of_mem_onTheWay ?_
    rw [onTheWay, hsends, underway_cons]
    exact List.mem_append_left _ (List.mem_append_right _ hm)
  have hsent : r'.service.countFor app (refsOf kind flight.ref) =
      if kind = .synthetic ∧ flight.batch.app = app then 1 else 0 := by
    rw [hprecedes.countFor hlt]
    cases kind with
    | ordinary => rfl
    | synthetic =>
      rw [refsOf, Service.countFor_singleton, hs.app_of_send hsend]
      simp
  rw [onTheWay, hsends, underway_cons, Service.countFor_append, Service.countFor_append, hsent,
    Service.countFor_append]
  omega

/-- A reservoir that is put back is on its way as before, and so is what it pushes out. -/
theorem Sound.countFor_onTheWay_overflow (hs : r.Sound 0)
    (hprecedes : r.service.Precedes r'.service) {flight : Flight E}
    {rest : List (Kind × Flight E)} (hsends : r.sends = (.synthetic, flight) :: rest)
    {queue : List Ref} {last : Ref}
    (hlast : flight.ref :: r.service.backlog.queue = queue ++ [last]) (app : String) :
    r'.service.countFor app r.onTheWay = r'.service.countFor app (underway rest ++ queue) +
      if (r.service.reservoir last).app = app then 1 else 0 := by
  have hsplit : r.onTheWay = (underway rest ++ queue) ++ [last] := by
    rw [onTheWay, hsends, underway_cons, List.append_assoc, List.append_assoc, ← hlast]
    rfl
  have hlt : last < r.service.pool.size := by
    refine hs.lt_of_mem_onTheWay ?_
    rw [hsplit]
    exact List.mem_append_right _ List.mem_cons_self
  rw [hsplit, Service.countFor_append,
    hprecedes.countFor (fun ref hm => List.mem_singleton.1 hm ▸ hlt), Service.countFor_singleton]

variable [HasPriority E]

/-- **A step keeps the balance.** -/
theorem Balances.step (h : r.Balances app past) (hs : r.Sound 0)
    (hstep : r.step (.idle E) = some r') (hseen : r.inBackground = false) :
    r'.Balances app (past ++ r.milestone?.toList) := by
  have hpasses := hs.passes_step hstep
  have hprecedes := precedes_step hstep
  have happ : ∀ {app' ref}, r.milestone? = some (.harvested app' ref) →
      (r'.service.reservoir ref).app = app' := fun hnext =>
    ((hs.service.live (live_of_milestone? hnext)).grows hprecedes.grows).app
  generalize r.milestone? = milestone at hpasses happ
  cases hpasses with
  | idle ht => exact h.traffic hs hprecedes hseen ht (evensOut_nil app _)
  | launched hf hqueue hstack ht =>
    refine h.traffic hs hprecedes hseen ht ?_
    rw [onTheWay, hqueue, underway_cons, List.append_assoc]
    exact evensOut_nil app _
  | @queued app' ref hsealed hroom ht =>
    refine h.traffic hs hprecedes hseen ht (evensOut_queued app app' ref ?_)
    rw [← List.append_assoc, Service.countFor_append, Service.countFor_singleton, happ rfl]
    rfl
  | @refused app' ref hsealed ht =>
    exact h.traffic hs hprecedes hseen ht (evensOut_refused app app' ref _)
  | landed hsends hout ht =>
    exact h.traffic hs hprecedes hseen ht
      (evensOut_landed app _ (hs.countFor_onTheWay hprecedes hsends app))
  | @requeued flight rest hsends hout hroom ht =>
    refine h.traffic hs hprecedes hseen ht ?_
    rw [onTheWay, hsends, underway_cons, List.append_assoc]
    exact evensOut_requeued app flight _
  | overflowed hsends hout hlast ht =>
    exact h.traffic hs hprecedes hseen ht
      (evensOut_overflowed app _ _ (hs.countFor_onTheWay_overflow hprecedes hsends hlast app))
  | failed hsends hout hkept ht =>
    exact h.traffic hs hprecedes hseen ht
      (evensOut_failed app hkept (hs.countFor_onTheWay hprecedes hsends app))

/-! ### Every run -/

/-- What the ledger of a run says of an application, with the milestones passed so far. -/
structure IsBooked (app : String) (r : Run E Empty Unit) (past : List (Milestone E)) : Prop where
  posts : Posts app r.delivered r.counts past
  balances : r.Balances app past

theorem IsBooked.advance (h : r.IsBooked app past) (hs : r.Sound 0) (n : Nat)
    (hseen : ∀ m < n, (r.advance (.idle E) m).inBackground = false) :
    (r.advance (.idle E) n).IsBooked app (past ++ r.milestones (.idle E) n) := by
  induction n generalizing r past with
  | zero => exact (List.append_nil past).symm ▸ h
  | succ n ih =>
    cases hstep : r.step (.idle E) with
    | none =>
      rw [advance_succ_of_none hstep, milestones_succ_of_none hstep, List.append_nil]
      exact h
    | some r' =>
      have hnow : r.inBackground = false := hseen 0 (Nat.succ_pos n)
      have hlater : ∀ m < n, (r'.advance (.idle E) m).inBackground = false := fun m hlt => by
        have hm := hseen (m + 1) (Nat.succ_lt_succ hlt)
        rwa [advance_succ_of_some hstep] at hm
      rw [advance_succ_of_some hstep, milestones_succ_of_some hstep, ← List.append_assoc]
      exact ih ⟨h.posts.step (hs.passes_step hstep) hnow, h.balances.step hs hstep hnow⟩
        (hs.next hstep) hlater

/-- What the counter of a name, with the given tags, has come to in a run. -/
def counter (r : Run E Empty Unit) (name : String) (tags : List (String × String)) : Int :=
  counterOf name tags r.counts

omit [HasPriority E] in
/-- At rest, only those that wait are still on their way. -/
theorem countFor_of_atRest (h : r.AtRest) (app : String) :
    r.service.countFor app r.onTheWay = (r.waitingFor app).card := by
  have hsends : r.sends = [] := by
    rw [sends]
    rcases h with h | ⟨steps, h⟩ <;> rw [h] <;> rfl
  rw [onTheWay, hsends, waitingFor, Multiset.filter_coe, Multiset.coe_card, Service.countFor,
    List.countP_eq_length_filter]
  rfl

omit [HasPriority E] in
theorem isBooked_fresh (settings : Config.Settings) (transport : Transport E Empty)
    (steps : List (Step E Empty)) (random : Random.Source) (app : String) :
    (fresh settings transport steps random).IsBooked app [] :=
  ⟨posts_nil app, rfl⟩

/-- **The counters are exact.** At every point of every run of a new service that does nothing in
the background, for every application: the events and tries counted are those of its delivered
batches, and the failures counted are those of its ordinary batches. Between the steps at the
top, every synthetic reservoir that was harvested has been delivered, discarded or dropped, or
it waits. -/
theorem counter_eq (settings : Config.Settings) (transport : Transport E Empty)
    (steps : List (Step E Empty)) (random : Random.Source) (n : Nat)
    (hseen : ∀ m < n,
      ((fresh settings transport steps random).advance (.idle E) m).inBackground = false)
    (app : String) :
    let r := (fresh settings transport steps random).advance (.idle E) n
    let past := (fresh settings transport steps random).milestones (.idle E) n
    let ordinary := batchesOf .ordinary app r.delivered
    let synthetic := batchesOf .synthetic app r.delivered
    r.counter "events.transaction.sent" [appTag app] =
        ((ordinary.map fun b => b.events.length).sum : Nat) ∧
      r.counter "events.transaction.seen" [appTag app] =
        ((ordinary.map fun b => b.tries).sum : Nat) ∧
      r.counter "events.harvest.retried" (kindTags app .ordinary) =
        (past.countP (Milestone.isFailure .ordinary app true) : Nat) ∧
      r.counter "events.harvest.discarded" (kindTags app .ordinary) =
        (past.countP (Milestone.isFailure .ordinary app false) : Nat) ∧
      r.counter "events.synthetics.sent" [appTag app] =
        ((synthetic.map fun b => b.events.length).sum : Nat) ∧
      (r.AtRest → (past.countP (Milestone.isHarvest app) : Nat) =
        (synthetic.length : Int) +
          r.counter "events.harvest.discarded" (kindTags app .synthetic) +
          r.counter "events.synthetics.dropped" [appTag app] + (r.waitingFor app).card) := by
  intro r past ordinary synthetic
  have hbooked : r.IsBooked app past := (isBooked_fresh settings transport steps random app).advance
    (sound_fresh settings transport steps random) n hseen
  obtain ⟨hposts, hbalance⟩ := hbooked
  refine ⟨hposts .sent, hposts .seen, hposts (.failed true), hposts (.failed false),
    hposts .synthetic, fun hrest => ?_⟩
  rw [Balances, countFor_of_atRest hrest app] at hbalance
  exact hbalance

/-- The batch that was kept after its failure, and sent again with another event. -/
theorem counter_retriedRun :
    let r := retriedRun.advance (.idle _) 40
    let past := retriedRun.milestones (.idle _) 40
    r.counter "events.harvest.retried" (kindTags "a" .ordinary) =
        (past.countP (Milestone.isFailure .ordinary "a" true) : Nat) ∧
      r.counter "events.harvest.retried" (kindTags "a" .ordinary) = 1 ∧
      r.counter "events.transaction.seen" [appTag "a"] = 3 := by
  have hseen : ∀ m < 40, (retriedRun.advance (.idle _) m).inBackground = false := by
    decide +kernel
  exact ⟨(counter_eq _ _ _ _ 40 hseen "a").2.2.1, by decide +kernel, by decide +kernel⟩

end Run

end Telemetry.Events
