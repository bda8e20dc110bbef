import Telemetry.Proofs.Events.Reached
import Telemetry.Proofs.Sampling.Offering

/-!
# Recording without looking first

A record looks before it builds: if the live reservoir would not take the event, a try is counted
and the event is never built. `Service.recordPlainly` does not look. It builds every event of an
application that is collected, and offers it.

| | looks first | plainly |
|---|---|---|
| the reservoir would take the event | builds and offers it | the same |
| it would not | counts a try | builds the event, and the offer counts the try |

The two come to the same (`Run.record_eq_recordPlainly`), but for the names that are shared when
an event is built. The reason is `Reservoir.offer_of_open`: a reservoir that is open accepts
exactly what it said it would, and a live one is open.
-/

namespace Telemetry.Events

open Sampling (HasPriority Offer Reservoir)

variable {E P S : Type}

namespace Service

/-! ### The same but for names -/

/-- Two services that differ in nothing but the names that they share. -/
structure SameButNames (s s' : Service E) : Prop extends s.SameReservoirs s', s.SameSettings s'

section SameButNames

variable {s s' s'' : Service E}

theorem SameButNames.refl (s : Service E) : s.SameButNames s :=
  ⟨.refl s, .refl s⟩

theorem SameButNames.symm (h : s.SameButNames s') : s'.SameButNames s where
  pool := h.pool.symm
  live := h.live.symm
  queue := h.queue.symm
  enabled := h.enabled.symm
  isShutDown := h.isShutDown.symm
  settings := h.settings.symm
  pushed := h.pushed.symm
  maxSamplesStored := h.maxSamplesStored.symm
  memo := h.memo.symm
  generation := h.generation.symm
  capacity := h.capacity.symm

theorem SameButNames.trans (h : s.SameButNames s') (h' : s'.SameButNames s'') :
    s.SameButNames s'' where
  pool := h'.pool.trans h.pool
  live := h'.live.trans h.live
  queue := h'.queue.trans h.queue
  enabled := h'.enabled.trans h.enabled
  isShutDown := h'.isShutDown.trans h.isShutDown
  settings := h'.settings.trans h.settings
  pushed := h'.pushed.trans h.pushed
  maxSamplesStored := h'.maxSamplesStored.trans h.maxSamplesStored
  memo := h'.memo.trans h.memo
  generation := h'.generation.trans h.generation
  capacity := h'.capacity.trans h.capacity

theorem sameButNames_internAt (s : Service E) (version : Nat) (name : String) :
    s.SameButNames (s.internAt version name) :=
  ⟨s.sameReservoirs_internAt version name, s.sameSettings_internAt version name⟩

theorem SameButNames.modify (h : s.SameButNames s') (ref : Ref) (f : Reservoir E → Reservoir E) :
    (s.modify ref f).SameButNames (s'.modify ref f) where
  toSameReservoirs := ⟨congrArg (·.modify ref f) h.pool, h.live, h.queue⟩
  toSameSettings := { h.toSameSettings with }

theorem SameButNames.install (h : s.SameButNames s') (kind : Kind) (app : String)
    (decidedLast : Nat) :
    (s.install kind app decidedLast).2.SameButNames (s'.install kind app decidedLast).2 where
  toSameReservoirs := by
    refine ⟨?_, ?_, h.queue⟩
    · change s'.pool.push (s'.freshReservoir kind app decidedLast) = _
      rw [h.pool, h.freshReservoir]
      rfl
    · change s'.live.set kind app s'.pool.size = _
      rw [h.live, h.pool]
      rfl
  toSameSettings := { h.toSameSettings with }

/-- **Getting the live reservoir** does not depend on names. -/
theorem SameButNames.getOrCreate (h : s.SameButNames s') (kind : Kind) (app : String) :
    (s'.getOrCreate kind app).1 = (s.getOrCreate kind app).1 ∧
      (s.getOrCreate kind app).2.SameButNames (s'.getOrCreate kind app).2 := by
  have hsame := h.liveRef? kind app
  cases hlive : s.liveRef? kind app with
  | some ref =>
    rw [hlive] at hsame
    rw [getOrCreate_of_some hlive, getOrCreate_of_some hsame]
    exact ⟨rfl, h⟩
  | none =>
    rw [hlive] at hsame
    rw [getOrCreate_of_none hlive, getOrCreate_of_none hsame]
    exact ⟨congrArg Array.size h.pool, h.install kind app 0⟩

end SameButNames

/-! ### Offers without looking first -/

section Plainly

variable [HasPriority E]

/-- Offers an event to the live reservoir of an application. -/
def offerLive (s : Service E) (kind : Kind) (app : String) (event : E) :
    Offer E × Service E :=
  (s.getOrCreate kind app).2.offer (s.getOrCreate kind app).1 (HasPriority.priority event) event

/-- What comes of a synthetic event once its own reservoir has decided: if it is rejected there, it
is offered to the live ordinary reservoir. -/
def fallThrough (app : String) : Offer E × Service E → Service E
  | (.rejected event, s) => (s.offerLive .ordinary app event).2
  | (_, s) => s

/-- Offers an event that has been built; for an ordinary one this has a decision. -/
def offerBuilt (s : Service E) (app : String) (work : Work E) : Option (Offer E) × Service E :=
  if work.isSynthetic then
    (none, fallThrough app (s.offerLive .synthetic app work.event))
  else
    let (decision, s) := s.offerLive .ordinary app work.event
    (some decision, s)

/-- **Records an event without looking first**: if the application is collected, the event is
built, and then offered. -/
def recordPlainly (s : Service E) (app : String) (work : Work E) : Option (Offer E) × Service E :=
  if !s.isActive then (none, s)
  else
    let (enabled, s) := s.askEnabled app
    if !enabled then (none, s.removeOrdinary app)
    else (s.internAt s.namesVersion work.name).offerBuilt app work

variable {s s' : Service E}

/-- **What is turned away unseen** would have been rejected: counting a try is the offer of an event
that the reservoir would not take. -/
theorem countTry_eq_offer {ref : Ref} (hopen : (s.reservoir ref).isSealed = false) {event : E}
    (hwont : ¬ (s.reservoir ref).wouldAccept (HasPriority.priority event)) :
    s.countTry ref = (true, (s.offer ref (HasPriority.priority event) event).2) := by
  have htried := Reservoir.countTry_of_not_isSealed hopen
  rw [countTry, htried]
  refine Prod.ext rfl (s.modify_congr ref ?_)
  rw [htried, Reservoir.offer_of_open hopen, if_neg hwont]

/-- **An offer** does not depend on names. -/
theorem SameButNames.offerLive (h : s.SameButNames s') (kind : Kind) (app : String) (event : E) :
    (s'.offerLive kind app event).1 = (s.offerLive kind app event).1 ∧
      (s.offerLive kind app event).2.SameButNames (s'.offerLive kind app event).2 := by
  obtain ⟨href, hsame⟩ := h.getOrCreate kind app
  rw [Service.offerLive, Service.offerLive, href]
  refine ⟨?_, hsame.modify _ _⟩
  change ((Service.reservoir _ _).offer _ _).1 = ((Service.reservoir _ _).offer _ _).1
  rw [hsame.reservoir]

end Plainly

end Service

namespace Run

open Service (SameButNames)

section Record

variable [HasPriority E] {observer : Observer E P S} {p : Run E P S → Prop} {r : Run E P S}
  {app : String} {job : Job E P} {ref : Ref} {aside : Multiset Ref}

/-- **A built event is offered** once the steps have run that come before, if these are none. -/
theorem Ends.submit {kind : Kind} (hturns : ∀ turn ∈ job.onPriority, turn = [])
    (h : ∀ later, (∀ turn ∈ later, turn = []) →
      (r.offerTo kind app { job with onPriority := later } ref).Ends observer p) :
    (r.submit kind app job ref).Ends observer p := by
  rw [Run.submit]
  split
  next steps later hjob =>
    rw [hjob] at hturns
    obtain rfl : steps = [] := hturns steps List.mem_cons_self
    exact .within (h later fun turn hm => hturns turn (List.mem_cons_of_mem [] hm))
  next hjob =>
    have hnow := h [] fun turn hm => absurd hm List.not_mem_nil
    rwa [← hjob] at hnow

/-- **The offer of an ordinary event** to an open reservoir is the end of its record. -/
theorem Ends.offerTo_ordinary (hbase : r.stack = [.steps []])
    (hopen : (r.service.reservoir ref).isSealed = false)
    (hp : ∀ r' : Run E P S,
      r'.service = (r.service.offer ref (HasPriority.priority job.work.event) job.work.event).2 →
      r'.answer = .built job.isBuilt → p r') :
    (r.offerTo .ordinary app job ref).Ends observer p := by
  have hdecided : ∀ event, (r.service.offer ref (HasPriority.priority job.work.event)
      job.work.event).1 ≠ .closed event := Reservoir.offer_fst_ne_closed hopen _ _
  rw [offerTo_eq]
  generalize r.service.offer ref (HasPriority.priority job.work.event) job.work.event = result
    at hdecided hp ⊢
  obtain ⟨decision, s⟩ := result
  have hlast : ((r.withService s).finish job).Ends observer p := .last hbase (hp _ rfl rfl)
  cases decision with
  | accepted => exact hlast
  | rejected _ => exact hlast
  | closed _ => exact absurd rfl (hdecided _)

/-- **An event that has just been built** for an open reservoir is offered to it. Sharing its name
leaves the reservoir open. -/
theorem Ends.afterBuild_ordinary (hbase : r.stack = [.steps []])
    (hopen : (r.service.reservoir ref).isSealed = false)
    (hturns : ∀ turn ∈ job.onPriority, turn = []) (namesVersion : Nat)
    (hp : ∀ r' : Run E P S,
      (r.service.offer ref (HasPriority.priority job.work.event)
        job.work.event).2.SameButNames r'.service → r'.answer = .built true → p r') :
    (r.afterBuild app job namesVersion (some ref)).Ends observer p := by
  have hsame := r.service.sameButNames_internAt namesVersion job.work.name
  rw [Run.afterBuild]
  refine .submit hturns fun later _ => .offerTo_ordinary hbase ?_
    fun r' hservice hanswer => hp r' ?_ hanswer
  · change ((r.service.internAt namesVersion job.work.name).reservoir ref).isSealed = false
    rwa [hsame.reservoir]
  · rw [hservice]
    exact hsame.modify ref _

/-- **A round of an ordinary event** that has nothing to run comes to a plain offer, and builds
the event exactly if it is accepted. -/
theorem Ends.compete_ordinary (hbase : r.stack = [.steps []]) (hs : r.service.Sound aside)
    (hbuild : ∀ steps, job.onBuild = some steps → steps = [])
    (hturns : ∀ turn ∈ job.onPriority, turn = [])
    (hcarried : job.work.priority = HasPriority.priority job.work.event)
    (hp : ∀ r' : Run E P S,
      (r.service.offerLive .ordinary app job.work.event).2.SameButNames r'.service →
      r'.answer = .built (job.isBuilt ||
        decide ((r.service.offerLive .ordinary app job.work.event).1 = .accepted)) → p r') :
    (r.compete .ordinary app job).Ends observer p := by
  have hopen := (hs.getOrCreate .ordinary app).isOpen (r.service.liveRef?_getOrCreate .ordinary app)
  rw [Run.compete]
  rw [Service.offerLive] at hp
  generalize r.service.getOrCreate .ordinary app = result at hopen hp ⊢
  obtain ⟨ref, s⟩ := result
  simp only at hopen hp ⊢
  rw [hcarried]
  have hoffer := Reservoir.offer_of_open hopen (HasPriority.priority job.work.event) job.work.event
  split
  next hwould =>
    have haccepted : (s.offer ref (HasPriority.priority job.work.event) job.work.event).1 =
        .accepted := by
      rw [Service.offer, hoffer, if_pos hwould]
    rw [haccepted, decide_eq_true rfl, Bool.or_true] at hp
    split
    next steps hjob =>
      obtain rfl := hbuild steps hjob
      exact .within
        (.afterBuild_ordinary (r := r.withService s) hbase hopen hturns s.namesVersion hp)
    next hjob =>
      refine .submit hturns fun later _ => .offerTo_ordinary hbase hopen
        fun r' hservice hanswer => hp r' ?_ ?_
      · rw [hservice]
        exact .refl _
      · rw [hanswer, Job.isBuilt, hjob]
        rfl
  next hwont =>
    have hrejected : (s.offer ref (HasPriority.priority job.work.event) job.work.event).1 =
        .rejected job.work.event := by
      rw [Service.offer, hoffer, if_neg hwont]
    rw [hrejected] at hp
    rw [Service.countTry_eq_offer hopen hwont]
    refine .last hbase (hp _ (.refl _) ?_)
    change Answer.built job.isBuilt = _
    rw [decide_eq_false (by simp), Bool.or_false]

/-- **The offer of a synthetic event** to an open reservoir is the end of its record, unless it is
rejected and competes as an ordinary event. -/
theorem Ends.offerTo_synthetic (hbase : r.stack = [.steps []]) (hs : r.service.Sound aside)
    (hopen : (r.service.reservoir ref).isSealed = false) (hbuilt : job.onBuild = none)
    (hturns : ∀ turn ∈ job.onPriority, turn = [])
    (hcarried : job.work.priority = HasPriority.priority job.work.event)
    (hp : ∀ r' : Run E P S, (Service.fallThrough app (r.service.offer ref
      (HasPriority.priority job.work.event) job.work.event)).SameButNames r'.service →
      r'.answer = .built true → p r') :
    (r.offerTo .synthetic app job ref).Ends observer p := by
  have hisBuilt : job.isBuilt = true := by rw [Job.isBuilt, hbuilt, Option.isNone_none]
  have hoffered := hs.offer ref (HasPriority.priority job.work.event) job.work.event
  have hdecided : ∀ event, (r.service.offer ref (HasPriority.priority job.work.event)
      job.work.event).1 ≠ .closed event := Reservoir.offer_fst_ne_closed hopen _ _
  have hreturned := r.service.offer_fst_cases ref (HasPriority.priority job.work.event)
    job.work.event
  rw [offerTo_eq]
  generalize r.service.offer ref (HasPriority.priority job.work.event) job.work.event = result
    at hoffered hdecided hreturned hp ⊢
  obtain ⟨decision, s⟩ := result
  rcases hreturned with rfl | rfl | rfl
  · refine .last ((note_stack _ _).trans hbase) (hp _ ?_ (congrArg Answer.built hisBuilt))
    change s.SameButNames (Run.note _ _).service
    rw [note_service]
    exact .refl s
  · have hround : Ends observer p ((r.withService s).compete .ordinary app job) := by
      refine .compete_ordinary hbase hoffered (fun steps hsome => ?_) hturns hcarried
        fun r' hsame hanswer => hp r' hsame (by rw [hanswer, hisBuilt, Bool.true_or])
      rw [hbuilt] at hsome
      exact absurd hsome.symm (Option.some_ne_none steps)
    exact .push hround
  · exact absurd rfl (hdecided _)

/-- **A round of a synthetic event** that has been built comes to plain offers. -/
theorem Ends.compete_synthetic (hbase : r.stack = [.steps []]) (hs : r.service.Sound aside)
    (hbuilt : job.onBuild = none) (hturns : ∀ turn ∈ job.onPriority, turn = [])
    (hcarried : job.work.priority = HasPriority.priority job.work.event)
    (hp : ∀ r' : Run E P S, (Service.fallThrough app
      (r.service.offerLive .synthetic app job.work.event)).SameButNames r'.service →
      r'.answer = .built true → p r') :
    (r.compete .synthetic app job).Ends observer p := by
  have hgot := hs.getOrCreate .synthetic app
  have hopen := hgot.isOpen (r.service.liveRef?_getOrCreate .synthetic app)
  rw [Run.compete]
  rw [Service.offerLive] at hp
  generalize r.service.getOrCreate .synthetic app = result at hgot hopen hp ⊢
  obtain ⟨ref, s⟩ := result
  exact .submit hturns fun later hlater =>
    .offerTo_synthetic (r := r.withService s) hbase hgot hopen hbuilt hlater hcarried hp

/-- **A record whose priority is known** and that has nothing to run comes to plain offers. -/
theorem Ends.afterAsk (hbase : r.stack = [.steps []]) (hs : r.service.Sound aside)
    (hbuild : job.onBuild = some []) (hturns : ∀ turn ∈ job.onPriority, turn = [])
    (hcarried : job.work.priority = HasPriority.priority job.work.event)
    {plain : Option (Offer E) × Service E}
    (hplain : (r.service.internAt r.service.namesVersion job.work.name).offerBuilt app job.work =
      plain)
    (hp : ∀ r' : Run E P S, plain.2.SameButNames r'.service →
      (job.work.isSynthetic = false → r'.answer = .built (decide (plain.1 = some .accepted))) →
      (job.work.isSynthetic → r'.answer = .built true) → p r') :
    (r.afterAsk app job).Ends observer p := by
  have hshared := r.service.sameButNames_internAt r.service.namesVersion job.work.name
  rw [Service.offerBuilt] at hplain
  rw [Run.afterAsk]
  cases hkind : job.work.isSynthetic with
  | true =>
    rw [hkind, if_pos rfl] at hplain
    rw [if_pos rfl, hbuild]
    refine .within (.compete_synthetic hbase (hs.sameReservoirs hshared.toSameReservoirs) rfl
      hturns hcarried fun r' hsame hanswer =>
        hp r' (hplain ▸ hsame) (fun hordinary => ?_) fun _ => hanswer)
    rw [hkind] at hordinary
    exact absurd hordinary.symm Bool.false_ne_true
  | false =>
    rw [hkind, if_neg Bool.false_ne_true] at hplain
    obtain ⟨hdecision, hoffered⟩ := hshared.offerLive .ordinary app job.work.event
    rw [if_neg Bool.false_ne_true]
    refine .compete_ordinary hbase hs (fun steps hsome => ?_) hturns hcarried
      fun r' hsame hanswer => hp r' ?_ (fun _ => ?_) fun hsynthetic => ?_
    · rw [hbuild] at hsome
      exact (Option.some.inj hsome).symm
    · rw [← hplain]
      exact hoffered.symm.trans hsame
    · rw [hanswer, ← hplain, ← hdecision, Job.isBuilt, hbuild]
      simp
    · rw [hkind] at hsynthetic
      exact absurd hsynthetic Bool.false_ne_true

/-- **A record with which nothing else runs** comes to recording plainly. -/
theorem Ends.record (hbase : r.stack = [.steps []]) (hs : r.service.Sound aside) {work : Work E}
    {onPriority : List (List (Step E P))} (hturns : ∀ turn ∈ onPriority, turn = [])
    (hcarried : work.priority = HasPriority.priority work.event)
    {plain : Option (Offer E) × Service E} (hplain : r.service.recordPlainly app work = plain)
    (hp : ∀ r' : Run E P S, plain.2.SameButNames r'.service →
      (work.isSynthetic = false → r'.answer = .built (decide (plain.1 = some .accepted))) →
      (work.isSynthetic →
        r'.answer = .built (r.service.isActive && (r.service.askEnabled app).1)) → p r') :
    (r.record app work [] [] onPriority).Ends observer p := by
  have hasked := hs.sameReservoirs (r.service.sameReservoirs_askEnabled app)
  rw [Service.recordPlainly] at hplain
  rw [Run.record]
  generalize r.service.askEnabled app = result at hasked hplain hp ⊢
  obtain ⟨enabled, s⟩ := result
  simp only at hasked hplain hp ⊢
  split
  next hinactive =>
    rw [if_pos hinactive] at hplain
    rw [Bool.not_eq_true'] at hinactive
    rw [hinactive] at hp
    exact .last hbase (hp _ (hplain ▸ .refl _) (fun _ => hplain ▸ rfl) fun _ => rfl)
  next hactive =>
    rw [if_neg hactive] at hplain
    rw [Bool.not_eq_true', Bool.not_eq_false] at hactive
    rw [hactive, Bool.true_and] at hp
    split
    next hdisabled =>
      rw [if_pos hdisabled] at hplain
      rw [Bool.not_eq_true'] at hdisabled
      rw [hdisabled] at hp
      exact .last hbase (hp _ (hplain ▸ .refl _) (fun _ => hplain ▸ rfl) fun _ => rfl)
    next henabled =>
      rw [if_neg henabled] at hplain
      rw [Bool.not_eq_true', Bool.not_eq_false] at henabled
      rw [henabled] at hp
      exact .within (.afterAsk hbase hasked rfl hturns hcarried hplain hp)

end Record

/-- **Looking first makes no difference.** Whatever the service, an event that carries the
priority it was announced with, and with which nothing else runs, is recorded as if it were built
and offered at once: the reservoirs, the backlog and what was decided about applications are the
same. An ordinary event is built exactly if that offer is accepted. -/
theorem record_eq_recordPlainly [HasPriority E] {s : Service E} (hs : s.IsReached)
    (transport : Transport E Empty) (random : Random.Source) (app : String) {work : Work E}
    (hcarried : work.priority = HasPriority.priority work.event)
    {onPriority : List (List (Step E Empty))} (hturns : ∀ turn ∈ onPriority, turn = []) :
    let r := (calling s transport random).perform (.idle E) (.recordWith app work [] [] onPriority)
    r.stack = [] ∧ (s.recordPlainly app work).2.SameButNames r.service ∧
      (work.isSynthetic = false →
        r.answer = .built (decide ((s.recordPlainly app work).1 = some .accepted))) := by
  have hproper := isProper_calling hs transport random
  have hends : (((calling s transport random).push (.steps [])).start (.idle E)
      (.recordWith app work [] [] onPriority)).Ends (.idle E) fun r =>
        (s.recordPlainly app work).2.SameButNames r.service ∧ (work.isSynthetic = false →
          r.answer = .built (decide ((s.recordPlainly app work).1 = some .accepted))) :=
    .record (r := (calling s transport random).push (.steps [])) rfl hproper.sound.service hturns
      hcarried rfl fun _ hsame hanswer _ => ⟨hsame, hanswer⟩
  exact hends.perform hproper

open Simulation (Event) in
/-- A service with room for one event, which is taken. -/
def fullService : Service Event :=
  ((fresh { transactionEvents := { maxSamplesStored := 1 } } {}
    [.record "a" (transaction "a" 0.5) [] []] (.ofSeed 0)).advance (.idle _) 10).service

open Simulation (Event) in
/-- An event of lower priority is turned away there, and not built. -/
theorem record_eq_recordPlainly_fullService :
    let r := (calling fullService {} (.ofSeed 0)).perform (.idle _)
      (.record "a" (transaction "b" 0.25) [] [])
    (fullService.recordPlainly "a" (transaction "b" 0.25)).2.SameButNames r.service ∧
      r.answer = .built false := by
  have hreached : fullService.IsReached := ⟨_, _, _, _, 10, rfl⟩
  have hcarried : (transaction "b" 0.25).priority =
    HasPriority.priority (transaction "b" 0.25).event := rfl
  have hturns : ∀ turn ∈ ([[]] : List (List (Step Event Empty))), turn = [] := by simp
  have hrecord := record_eq_recordPlainly hreached {} (.ofSeed 0) "a" hcarried hturns
  refine ⟨hrecord.2.1, (hrecord.2.2 rfl).trans ?_⟩
  have hrefused : (fullService.recordPlainly "a" (transaction "b" 0.25)).1 ≠ some .accepted := by
    decide +kernel
  rw [decide_eq_false hrefused]

end Run

end Telemetry.Events
