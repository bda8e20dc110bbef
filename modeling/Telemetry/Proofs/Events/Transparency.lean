import Telemetry.Proofs.Events.Conservation
import Telemetry.Proofs.Events.Owing

/-!
# A retried harvest is transparent

Each function of a run keeps the account of what is owed (`Run.Owes`), one lemma for each, and a
batch that is handed over is what was due: it counts as many tries as record calls are owed, and
has the highest of their priorities, as many as the capacity allows (`IsDue`).

`Run.sent_eq_owed` says so of all batches in the history of a run. What is owed does not depend on
attempts that were retried; so neither does what is sent.
-/

namespace Telemetry.Events

open Sampling (HasPriority Reservoir Offer highest)
open Config (UnexpectedErrorPolicy)

variable {E P S : Type}

/-- What a moment has to be if these calls are owed: an ordinary batch of the application has as
many tries, and the highest levels. -/
def IsDue [HasPriority E] (terms : Terms) (calls : List (Work E)) : Moment E → Prop
  | .sent .ordinary batch _ => batch.app = terms.app →
    batch.tries = calls.length ∧
      batch.events.map (fun event => Double.level (HasPriority.priority event)) =
        highest terms.capacity (levelsOf calls)
  | _ => True

namespace Run

variable [HasPriority E] {terms : Terms} {past : List (Moment E)} {r : Run E P S} {app : String}
  {calls : List (Work E)}

/-! ### Recording -/

/-- The account takes notice of a record call. -/
theorem Owes.call (h : r.Owes terms past 0 calls) (job : Job E P) (app : String) :
    r.Owes terms past (job.arriving terms app)
      (owedAfter terms.policy terms.app calls (.recorded app job.work)) := by
  unfold Job.arriving
  change r.Owes terms past _ (if app = terms.app then job.work :: calls else calls)
  split
  · obtain ⟨live, kept, hlive, hkept, hsum⟩ := h.account
    refine ⟨h.service, h.transport, h.flat, h.goals, h.sent, live, kept, hlive, hkept, ?_⟩
    rw [levelsOf, List.map_cons, ← Multiset.cons_coe]
    change _ ::ₘ levelsOf calls = _
    rw [hsum, ← Multiset.singleton_add]
    abel
  · exact h

/-- **A reservoir is changed for an event**: if it is that of the application, it takes over the
level. -/
theorem Owes.settle {job : Job E P} (h : r.Owes terms past (job.arriving terms app) calls)
    {held : Multiset Ref} (hs : r.Sound held) {ref : Ref}
    (hb : r.service.Belongs .ordinary app ref) {f : Reservoir E → Reservoir E}
    (hown : app = terms.app → r.service.liveRef? .ordinary app = some ref ∧
      ∀ levels, (r.service.reservoir ref).Summarises terms.capacity levels →
        (f (r.service.reservoir ref)).Summarises terms.capacity
          (Double.level job.work.priority ::ₘ levels)) :
    (r.withService (r.service.modify ref f)).Owes terms past 0 calls := by
  unfold Job.arriving at h
  by_cases happ : app = terms.app
  · obtain ⟨hlive, hf⟩ := hown happ
    rw [if_pos happ] at h
    rw [happ] at hlive
    exact h.admit hs hlive hf
  · rw [if_neg happ] at h
    exact h.spared hs (h.service.same (r.service.sameSettings_modify ref f))
      (Service.spares_modify (hb.not_belongs fun hcon => happ hcon.2) f)

theorem Owes.offerTo {job : Job E P} (h : r.Owes terms past (job.arriving terms app) calls)
    (hs : r.Sound 0) (hjob : job.Submits) {ref : Ref} (hb : r.service.Belongs .ordinary app ref)
    (hgoal : app = terms.app → r.service.liveRef? .ordinary app = some ref) :
    (r.offerTo .ordinary app job ref).Owes terms past 0 calls := by
  have hoffered : (r.withService (r.service.offer ref (HasPriority.priority job.work.event)
      job.work.event).2).Owes terms past 0 calls := by
    refine h.settle hs hb fun happ => ⟨hgoal happ, fun levels hlevels => ?_⟩
    rw [hjob.priority]
    exact hlevels.offer (hs.service.isOpen (hgoal happ)) hjob.isNumber hjob.priority.symm
  have hclosed : app = terms.app → ∀ event, (r.service.offer ref
      (HasPriority.priority job.work.event) job.work.event).1 ≠ .closed event := fun happ =>
    Reservoir.offer_fst_ne_closed (hs.service.isOpen (hgoal happ)) _ _
  rw [Run.offerTo_eq]
  generalize r.service.offer ref (HasPriority.priority job.work.event) job.work.event = result
    at hoffered hclosed ⊢
  obtain ⟨decision, s⟩ := result
  simp only at hoffered hclosed ⊢
  cases decision with
  | accepted => exact hoffered.same rfl rfl rfl rfl
  | rejected _ => exact hoffered.same rfl rfl rfl rfl
  | closed _ =>
    have harriving : job.arriving terms app = 0 := if_neg fun happ => hclosed happ _ rfl
    refine hoffered.push (f := .compete .ordinary app job) hjob ?_ fun ref hnone => nomatch hnone
    exact (Multiset.add_zero _).symm.trans (congrArg (· + 0) harriving.symm)

theorem Owes.submit {job : Job E P} (h : r.Owes terms past (job.arriving terms app) calls)
    (hs : r.Sound 0) (hjob : job.Submits) {ref : Ref} (hb : r.service.Belongs .ordinary app ref)
    (hgoal : app = terms.app → r.service.liveRef? .ordinary app = some ref) :
    (r.submit .ordinary app job ref).Owes terms past 0 calls := by
  unfold Run.submit
  split
  next steps later hturns =>
    have hmem : steps ∈ job.onPriority := by rw [hturns]; exact List.mem_cons_self
    refine h.within (f := .offer .ordinary app { job with onPriority := later } ref)
      (hjob.onPriority steps hmem)
      ⟨hjob.isOrdinary, hjob.priority, hjob.isNumber, hjob.onBuild, fun steps' hm => ?_⟩
      (Multiset.add_zero _).symm fun ref' hr => ?_
    · exact hjob.onPriority steps' (by rw [hturns]; exact List.mem_cons_of_mem _ hm)
    · change (if app = terms.app then some ref else none) = some ref' at hr
      split at hr
      next happ => rw [← happ, hgoal happ, ← hr]
      next => nomatch hr
  next => exact h.offerTo hs hjob hb hgoal

theorem Owes.compete {job : Job E P} (h : r.Owes terms past (job.arriving terms app) calls)
    (hs : r.Sound 0) (hjob : job.Submits) :
    (r.compete .ordinary app job).Owes terms past 0 calls := by
  have hstart : Kept (fun _ => ()) False 0 r 0 r 0 := .refl hs
  have hgot := (hstart.getOrCreate .ordinary app).sound
  have howes := h.getOrCreate hs app
  have hlive := r.service.liveRef?_getOrCreate .ordinary app
  unfold Run.compete
  generalize r.service.getOrCreate .ordinary app = result at hgot howes hlive ⊢
  obtain ⟨ref, s⟩ := result
  simp only at hgot howes hlive ⊢
  have hb : s.Belongs .ordinary app ref := hgot.service.live hlive
  have hopen : (s.reservoir ref).isSealed = false := hgot.service.isOpen hlive
  split
  next hwould =>
    split
    next steps hbuild =>
      refine howes.within (f := .built app job s.namesVersion (some ref))
        (hjob.onBuild steps hbuild) hjob (Multiset.add_zero _).symm fun ref' hr => ?_
      change (if app = terms.app then some ref else none) = some ref' at hr
      split at hr
      next happ => rw [← happ, ← hr]; exact hlive
      next => nomatch hr
    next => exact howes.submit hgot hjob hb fun _ => hlive
  next hwont =>
    -- the event is not even built, but it counts
    have hcounted : (s.countTry ref).1 = true := by
      rw [Service.countTry, Reservoir.countTry_of_not_isSealed hopen]
    rw [if_pos hcounted]
    refine Owes.same (howes.settle hgot hb (f := fun r => r.countTry.2)
      fun _ => ⟨hlive, fun levels hlevels => ?_⟩) rfl rfl rfl rfl
    change (s.reservoir ref).countTry.2.Summarises _ _
    rw [Reservoir.countTry_of_not_isSealed hopen]
    exact hlevels.tried hjob.isNumber (eq_false_of_ne_true hwont)

theorem Owes.afterBuild {job : Job E P} (h : r.Owes terms past (job.arriving terms app) calls)
    (hs : r.Sound 0) (hjob : job.Submits) (namesVersion : Nat) {ref : Ref}
    (hb : r.service.Belongs .ordinary app ref)
    (hgoal : app = terms.app → r.service.liveRef? .ordinary app = some ref) :
    (r.afterBuild app job namesVersion (some ref)).Owes terms past 0 calls := by
  have hstart : Kept (fun _ => ()) False 0 r 0 r 0 := .refl hs
  have hsame := r.service.sameReservoirs_internAt namesVersion job.work.name
  have howes : Owes terms past _ (Job.arriving terms app { job with onBuild := none }) calls :=
    h.spared hs (h.service.same (r.service.sameSettings_internAt namesVersion job.work.name))
      (hsame.spares terms.app)
  have hbuilt : Job.Submits { job with onBuild := none } :=
    ⟨hjob.isOrdinary, hjob.priority, hjob.isNumber, fun _ hnone => (nomatch hnone),
      hjob.onPriority⟩
  refine Owes.submit howes (hstart.sameReservoirs hsame).sound hbuilt
    (hb.grows (hsame.grows fun _ => False)) fun happ => ?_
  exact (hsame.liveRef? .ordinary app).trans (hgoal happ)

theorem Owes.afterAsk {job : Job E P} (h : r.Owes terms past (job.arriving terms app) calls)
    (hs : r.Sound 0) (hjob : job.Submits) : (r.afterAsk app job).Owes terms past 0 calls := by
  unfold Run.afterAsk
  rw [hjob.isOrdinary]
  exact h.compete hs hjob

/-- **A record call** is owed from then on. -/
theorem Owes.record (h : r.Owes terms past 0 calls) {held : Multiset Ref} (hs : r.Sound held)
    {work : Work E} {onAsk onBuild : List (Step E P)} {onPriority : List (List (Step E P))}
    (hsubmits : (Step.recordWith app work onAsk onBuild onPriority).Submits) :
    (r.record app work onAsk onBuild onPriority).Owes terms past 0
      (owedAfter terms.policy terms.app calls (.recorded app work)) := by
  obtain ⟨hordinary, hpriority, hnumber, hask, hbuild, hturns⟩ := hsubmits
  have hcall := h.call (⟨work, some onBuild, onPriority⟩ : Job E P) app
  have hasked := hcall.spared hs (h.service.askEnabled app)
    ((r.service.sameReservoirs_askEnabled app).spares terms.app)
  have hstart : Kept (fun _ => ()) False 0 r held r held := .refl hs
  have hkept := hstart.sameReservoirs (r.service.sameReservoirs_askEnabled app)
  unfold Run.record
  simp only [h.service.isActive, Bool.not_true, Bool.false_eq_true, if_false]
  have hcollected : app = terms.app → (r.service.askEnabled app).1 = true := by
    rintro rfl
    exact r.service.fst_askEnabled h.service.enabled h.service.remembered
  generalize r.service.askEnabled app = result at hasked hkept hcollected ⊢
  obtain ⟨enabled, s⟩ := result
  simp only at hasked hkept hcollected ⊢
  cases enabled with
  | true =>
    refine hasked.within (f := .asked app ⟨work, some onBuild, onPriority⟩) hask
      ⟨hordinary, hpriority, hnumber, fun steps hsteps => ?_, hturns⟩ (Multiset.add_zero _).symm
      fun _ hnone => nomatch hnone
    obtain rfl := Option.some.inj hsteps
    exact hbuild
  | false =>
    have hother : app ≠ terms.app := fun happ => Bool.false_ne_true (hcollected happ)
    rw [Job.arriving, if_neg hother] at hasked
    exact Owes.same (hasked.spared hkept.sound
      (hasked.service.same (s.sameSettings_removeOrdinary app)) (s.spares_removeOrdinary hother))
      rfl rfl rfl rfl

/-! ### Harvesting -/

omit [HasPriority E] in
theorem isSteady_backlog {s : Service E} (h : s.IsSteady terms) (backlog : Backlog Ref) :
    Service.IsSteady terms { s with backlog := backlog } :=
  ⟨h.isActive, h.enabled, h.remembered, h.capacity, h.policy⟩

/-- The backlog does not matter. -/
theorem Owes.withBacklog {hand : Multiset Int} (h : r.Owes terms past hand calls)
    (backlog : Backlog Ref) :
    (r.withService { r.service with backlog := backlog }).Owes terms past hand calls :=
  h.withService (isSteady_backlog h.service backlog) rfl fun _ _ => rfl

theorem Owes.enqueue (h : r.Owes terms past 0 calls) (app : String) (ref : Ref) :
    (r.enqueue app ref).Owes terms past 0 calls := by
  unfold Run.enqueue
  split
  · exact h.withBacklog _
  · exact Owes.note (h.note (Note.isQuiet_record _)) (Note.isQuiet_counted _ _ _)

omit [HasPriority E] in
theorem stack_enqueue (r : Run E P S) (app : String) (ref : Ref) :
    (r.enqueue app ref).stack = r.stack := by
  unfold Run.enqueue
  split
  · rfl
  · rw [note_stack]
    exact note_stack r _

/-- **The first half of a harvest** is of no concern to ordinary events. -/
theorem Owes.harvest (h : r.Owes terms past 0 calls) (hs : r.Sound 0) (htop : IsTop r.stack)
    (app : String) : (r.harvest app).Owes terms past 0 calls := by
  have hswap := h.spared hs (h.service.same (r.service.sameSettings_swapOut .synthetic app))
    (hs.service.spares_swapOut fun hcon => nomatch hcon.1)
  have hanswered : ∀ s, (r.withService s).Owes terms past 0 calls →
      ((r.withAnswer .none).withService s).Owes terms past 0 calls := fun s hr =>
    hr.same rfl rfl rfl rfl
  unfold Run.harvest
  simp only
  split
  · exact h.same rfl rfl rfl rfl
  · refine Owes.pushHarvest ?_ ?_ trivial rfl
    · split
      · split
        · exact hanswered _ hswap
        · exact (hanswered _ hswap).enqueue app _
      · exact hanswered _ hswap
    · split
      · split
        · exact htop
        · rw [stack_enqueue]
          exact htop
      · exact htop

theorem Owes.endDrain (h : r.Owes terms past 0 calls) (htop : IsTop r.stack) (app : String) :
    (r.endDrain app).Owes terms past 0 calls := by
  refine (h.note (Note.isQuiet_gauged _ _ _)).pushHarvest ?_ trivial rfl
  rwa [note_stack]

variable (terms past calls) in
/-- **What a step pays**: it hands over one batch at most, which is what was due, and what remains
is owed. -/
def Pays (r : Run E P S) : Prop :=
  ∃ new : Option (Moment E),
    r.Owes terms (new.toList ++ past) 0
      (new.toList.foldl (owedAfter terms.policy terms.app) calls) ∧
    ∀ m ∈ new, IsDue terms calls m

theorem Owes.pays (h : r.Owes terms past 0 calls) : r.Pays terms past calls :=
  ⟨none, h, fun _ hm => nomatch hm⟩

theorem Owes.drain (h : r.Owes terms past 0 calls) (htop : IsTop r.stack) (app : String)
    (budget : Nat) : (r.drain app budget).Pays terms past calls := by
  unfold Run.drain Backlog.pop?
  cases budget with
  | zero => exact (h.endDrain htop app).pays
  | succ budget =>
    cases r.service.backlog.queue with
    | nil => exact (h.endDrain htop app).pays
    | cons ref rest =>
      have hpopped := h.withBacklog { r.service.backlog with queue := rest }
      have hsent := hpopped.send htop .synthetic ref (.settleSynthetic app budget)
        (fun _ => trivial) 0 rfl rfl
      exact ⟨some _, hsent, fun m hm => by obtain rfl := Option.some.inj hm; trivial⟩

theorem Owes.requeue (h : r.Owes terms past 0 calls) (ref : Ref) :
    (r.requeue ref).Owes terms past 0 calls ∧ (r.requeue ref).stack = r.stack := by
  have hmoved := h.withBacklog (r.service.backlog.requeue ref).2
  unfold Run.requeue
  simp only
  split
  · refine ⟨Owes.note (hmoved.note (Note.isQuiet_record _)) (Note.isQuiet_counted _ _ _), ?_⟩
    rw [note_stack]
    exact note_stack _ _
  · exact ⟨hmoved, rfl⟩

theorem Owes.settled {hand : Multiset Int} (h : r.Owes terms past hand calls) (kind : Kind)
    (batch : Batch E) (outcome : Outcome) :
    (r.note (.settled kind batch outcome)).Owes terms past hand calls :=
  h.same (note_service r _) (note_stack r _) (note_transport r _) (sent_note r _)

/-- **The outcome of a synthetic send** is of no concern to ordinary events. -/
theorem Owes.settleSynthetic (h : r.Owes terms past 0 calls) (htop : IsTop r.stack) (app : String)
    (budget : Nat) (flight : Flight E) :
    (r.settleSynthetic app budget flight).Owes terms past 0 calls := by
  unfold Run.settleSynthetic
  simp only
  cases flight.outcome with
  | none =>
    refine Owes.pushHarvest (Owes.note (h.settled .synthetic flight.batch none)
      (Note.isQuiet_counted _ _ _)) ?_ trivial rfl
    simpa only [note_stack] using htop
  | some error =>
    have hnoted := h.settled .synthetic flight.batch (some error)
    simp only
    split
    · obtain ⟨howes, hstack⟩ := Owes.requeue
        ((hnoted.logUnsent flight.batch.app _ error).note (Note.isQuiet_counted _ _ _)) flight.ref
      refine howes.endDrain ?_ app
      rw [hstack]
      simpa only [note_stack, logUnsent_stack] using htop
    · refine Owes.endDrain ((hnoted.logUnsent _ _ _).note (Note.isQuiet_counted _ _ _)) ?_ app
      simpa only [note_stack, logUnsent_stack] using htop

/-- What a batch of a reservoir holds is what is due if the reservoir stands for what is owed. -/
theorem isDue_batch {s : Service E} {ref : Ref} (h : s.StandsFor terms (levelsOf calls) (some ref))
    (outcome : Outcome) : IsDue terms calls (.sent .ordinary (s.batch ref) outcome) := by
  intro _
  refine ⟨?_, Reservoir.Summarises.map_toList h⟩
  have htries : (s.reservoir ref).tries = (levelsOf calls).card := Reservoir.Summarises.tries h
  rw [levelsOf, Multiset.coe_card, List.length_map] at htries
  exact htries

variable (terms calls) in
/-- **What a swap for an application takes in hand**: all that is owed if it is the application of
the terms, and nothing if it is another. -/
structure Yields (s : Service E) (app : String) (ref? : Option Ref) (hand : Multiset Int) :
    Prop where
  own : app = terms.app → hand = levelsOf calls ∧ s.StandsFor terms (levelsOf calls) ref?
  other : app ≠ terms.app → hand = 0

/-- Without a batch nothing is in hand. -/
theorem Yields.eq_zero {s : Service E} {ref? : Option Ref} {hand : Multiset Int}
    (h : Yields terms calls s app ref? hand) (hcapacity : 0 < terms.capacity)
    (hempty : ∀ ref, ref? = some ref → (s.reservoir ref).isEmpty) : hand = 0 := by
  by_cases happ : app = terms.app
  · obtain ⟨rfl, hstands⟩ := h.own happ
    cases ref? with
    | none => exact hstands
    | some ref => exact Reservoir.Summarises.eq_zero hstands hcapacity (hempty ref rfl)
  · exact h.other happ

/-- **A swap for an application**, whichever it is. -/
theorem Owes.swapFor (h : r.Owes terms past 0 calls) (hs : r.Sound 0) (htop : IsTop r.stack)
    (app : String) :
    ∃ hand, (r.withService (r.service.swapOut .ordinary app).2).Owes terms past hand calls ∧
      Yields terms calls (r.service.swapOut .ordinary app).2 app
        (r.service.liveRef? .ordinary app) hand := by
  by_cases happ : app = terms.app
  · subst happ
    obtain ⟨hswapped, hstands⟩ := h.swapOut hs htop
    exact ⟨levelsOf calls, hswapped, fun _ => ⟨rfl, hstands⟩, fun hcon => absurd rfl hcon⟩
  · have hswapped := h.spared hs (h.service.same (r.service.sameSettings_swapOut .ordinary app))
      (hs.service.spares_swapOut fun hcon => happ hcon.2)
    exact ⟨0, hswapped, fun hcon => absurd hcon happ, fun _ => rfl⟩

/-- An ordinary send is what was due, if it is for the application. -/
theorem Owes.sendOrdinary {hand : Multiset Int} (h : r.Owes terms past hand calls)
    (htop : IsTop r.stack) {ref : Ref} (hb : r.service.Belongs .ordinary app ref)
    (hyields : Yields terms calls r.service app (some ref) hand) :
    (r.send .ordinary ref (.settleOrdinary app)).Pays terms past calls := by
  have hbatch : (r.service.batch ref).app = app := hb.app
  refine ⟨some (.sent .ordinary (r.service.batch ref) (r.replyTo ref).outcome), ?_,
    fun m hm => ?_⟩
  · change Owes _ _ _ _ (if (r.service.batch ref).app = terms.app ∧
      isKept terms.policy (r.replyTo ref).outcome = false then [] else calls)
    rw [hbatch]
    by_cases happ : app = terms.app
    · obtain ⟨rfl, hstands⟩ := hyields.own happ
      cases hkept : isKept terms.policy (r.replyTo ref).outcome with
      | true =>
        rw [if_neg fun hcon => nomatch hcon.2]
        refine h.send htop .ordinary ref (.settleOrdinary app) (fun _ => trivial)
          (levelsOf calls) ?_ rfl
        rw [Frame.kept?, if_pos ⟨happ, hkept⟩]
        exact hstands
      | false =>
        rw [if_pos ⟨happ, rfl⟩]
        refine h.send htop .ordinary ref (.settleOrdinary app) (fun _ => trivial) 0 ?_
          ((Multiset.zero_add _).trans (Multiset.add_zero _).symm)
        rw [Frame.kept?, if_neg fun hcon => by rw [hkept] at hcon; exact nomatch hcon.2]
        rfl
    · obtain rfl := hyields.other happ
      rw [if_neg fun hcon => happ hcon.1]
      refine h.send htop .ordinary ref (.settleOrdinary app) (fun _ => trivial) 0 ?_ rfl
      rw [Frame.kept?, if_neg fun hcon => happ hcon.1]
      rfl
  · obtain rfl := Option.some.inj hm
    by_cases happ : app = terms.app
    · exact isDue_batch (hyields.own happ).2 _
    · exact fun hcon => absurd (hbatch.symm.trans hcon) happ

/-- **The second half of a harvest** hands over what was due. -/
theorem Owes.harvestOrdinary (h : r.Owes terms past 0 calls) (hs : r.Sound 0) (htop : IsTop r.stack)
    (hcapacity : 0 < terms.capacity) (app : String) :
    (r.harvestOrdinary app).Pays terms past calls := by
  have hstart : Kept (fun _ => ()) False 0 r 0 r 0 := .refl hs
  have hkept := hstart.sameReservoirs (r.service.sameReservoirs_askEnabled app)
  have hasked := h.spared hs (h.service.askEnabled app)
    ((r.service.sameReservoirs_askEnabled app).spares terms.app)
  have hcollected : app = terms.app → (r.service.askEnabled app).1 = true := by
    rintro rfl
    exact r.service.fst_askEnabled h.service.enabled h.service.remembered
  unfold Run.harvestOrdinary
  generalize r.service.askEnabled app = result at hasked hkept hcollected ⊢
  obtain ⟨enabled, s⟩ := result
  simp only at hasked hkept hcollected ⊢
  split
  next hdisabled =>
    have hother : app ≠ terms.app := fun happ => by
      rw [hcollected happ] at hdisabled
      exact Bool.false_ne_true hdisabled
    exact (hasked.spared hkept.sound (hasked.service.same (s.sameSettings_removeOrdinary app))
      (s.spares_removeOrdinary hother)).pays
  next =>
    have hfst := s.swapOut_fst .ordinary app
    have hgrows := s.grows_swapOut (fun _ => False) .ordinary app
    obtain ⟨hand, hswapped, hyields⟩ :
        ∃ hand, (r.withService (s.swapOut .ordinary app).2).Owes terms past hand calls ∧
          Yields terms calls (s.swapOut .ordinary app).2 app (s.liveRef? .ordinary app) hand :=
      hasked.swapFor hkept.sound htop app
    generalize s.swapOut .ordinary app = result at hfst hgrows hswapped hyields ⊢
    obtain ⟨swapped, s'⟩ := result
    simp only at hfst hgrows hswapped hyields ⊢
    subst hfst
    split
    next hnone =>
      rw [hnone] at hyields
      obtain rfl := hyields.eq_zero hcapacity fun ref hcon => nomatch hcon
      exact hswapped.pays
    next ref hlive =>
      rw [hlive] at hyields
      split
      next hempty =>
        obtain rfl := hyields.eq_zero hcapacity fun ref' hsame => Option.some.inj hsame ▸ hempty
        exact hswapped.pays
      next =>
        have hb : s'.Belongs .ordinary app ref := (hkept.sound.service.live hlive).grows hgrows
        refine Owes.sendOrdinary (hswapped.note (Note.isQuiet_gauged _ _ _)) ?_ ?_ ?_
        · rw [note_stack]
          exact htop
        · rw [note_service]
          exact hb
        · rw [note_service]
          exact hyields

/-- What was sent is merged into the live reservoir. -/
theorem Owes.retry {kept : Multiset Int} {ref : Ref} (h : r.Owes terms past kept calls)
    (hs : r.Sound (0 + {ref})) (htop : IsTop r.stack) (hb : r.service.Belongs .ordinary app ref)
    (hkept : app = terms.app → r.service.StandsFor terms kept (some ref))
    (hother : app ≠ terms.app → kept = 0) :
    (r.withService ((r.service.getOrCreate .ordinary app).2.mergeInto
      (r.service.getOrCreate .ordinary app).1 ref)).Owes terms past 0 calls := by
  have hstart : Kept (fun _ => ()) False 0 r (0 + {ref}) r (0 + {ref}) := .refl hs
  have hsound := (hstart.getOrCreate .ordinary app).sound
  have hgot := h.getOrCreate hs app
  have hlive := r.service.liveRef?_getOrCreate .ordinary app
  have hgrows := r.service.grows_getOrCreate (fun _ => False) .ordinary app
  by_cases happ : app = terms.app
  · subst happ
    refine hgot.mergeInto hsound htop hlive ((hkept rfl).congr fun ref' hr => ?_)
    obtain rfl := Option.some.inj hr
    have hmem : ref ∈ r.aside + (0 + {ref}) :=
      Multiset.mem_add.2 (.inr (Multiset.mem_add.2 (.inr (Multiset.mem_singleton_self ref))))
    exact hgrows.frozen ref hb.lt (hs.service.isSealed hmem) id
  · rw [hother happ] at hgot
    have hnot : ¬ (Kind.ordinary = .ordinary ∧ app = terms.app) := fun hcon => happ hcon.2
    exact hgot.spared hsound (hgot.service.same (Service.sameSettings_mergeInto _ _ _))
      (Service.spares_mergeInto (hsound.service.live hlive) (hb.grows hgrows) hnot)

/-- What was sent is dropped. -/
theorem Owes.drop {ref : Ref} (h : r.Owes terms past 0 calls) (hs : r.Sound (0 + {ref}))
    (htop : IsTop r.stack) :
    (r.withService (r.service.modify ref (·.clear))).Owes terms past 0 calls := by
  refine h.withService (h.service.same (r.service.sameSettings_modify ref _)) rfl fun ref' hr => ?_
  refine r.service.reservoir_modify_of_ne ?_ _
  rintro rfl
  rcases hr with hlive | hkept
  · exact hs.notMem (Multiset.mem_add.2 (.inl (Store.mem_all_iff.2 ⟨_, _, hlive⟩)))
  · rw [Run.kept?, htop.kept?_eq] at hkept
    exact Option.some_ne_none _ hkept.symm

/-- **The outcome of an ordinary send**: if it is retried, what was kept is live again. -/
theorem Owes.settleOrdinary {flight : Flight E} {kept : Multiset Int}
    (h : r.Owes terms past kept calls) (hs : r.Sound (0 + {flight.ref})) (htop : IsTop r.stack)
    (hfits : (Frame.settleOrdinary app flight : Frame E P).Fits r.service)
    (hkept : r.service.StandsFor terms kept
      ((Frame.settleOrdinary app flight : Frame E P).kept? terms)) :
    (r.settleOrdinary app flight).Owes terms past 0 calls := by
  have hstart : Kept (fun _ => ()) False 0 r (0 + {flight.ref}) r (0 + {flight.ref}) := .refl hs
  have hsettled := h.settled .ordinary flight.batch flight.outcome
  have hnone : ¬ (app = terms.app ∧ isKept terms.policy flight.outcome) → kept = 0 := by
    intro hnot
    rw [Frame.kept?, if_neg hnot] at hkept
    exact hkept
  have hsome : app = terms.app ∧ isKept terms.policy flight.outcome →
      r.service.StandsFor terms kept (some flight.ref) := by
    intro hyes
    rw [Frame.kept?, if_pos hyes] at hkept
    exact hkept
  unfold Run.settleOrdinary
  simp only
  cases hout : flight.outcome with
  | none =>
    rw [hout] at hsettled hnone
    rw [hnone fun hcon => nomatch hcon.2] at hsettled
    exact Owes.note (Owes.note (Owes.note (hsettled.note (Note.isQuiet_sample _))
      (Note.isQuiet_counted _ _ _)) (Note.isQuiet_counted _ _ _)) (Note.isQuiet_record _)
  | some error =>
    rw [hout] at hsettled hnone hsome
    have hquiet := Note.isQuiet_settled .ordinary flight.batch error
    have hpolicy : (r.note (.settled .ordinary flight.batch
        (some error))).service.settings.harvest.unexpectedErrors = terms.policy := by
      rw [note_service]
      exact h.service.policy
    simp only [hpolicy]
    split
    next hretried =>
      refine Owes.note (Owes.retry (hsettled.logUnsent _ _ _)
        ((hstart.note hquiet).logUnsent _ _ _).sound ?_ ?_ (fun happ => ?_) fun happ => ?_)
        (Note.isQuiet_counted _ _ _)
      · simpa only [note_stack, logUnsent_stack] using htop
      · simpa only [note_service, logUnsent_service] using hfits.2
      · simpa only [note_service, logUnsent_service] using hsome ⟨happ, hretried⟩
      · exact hnone fun hcon => happ hcon.1
    next hdropped =>
      rw [hnone fun hcon => hdropped hcon.2] at hsettled
      refine Owes.note (Owes.drop (hsettled.logUnsent _ _ _)
        ((hstart.note hquiet).logUnsent _ _ _).sound ?_) (Note.isQuiet_counted _ _ _)
      simpa only [note_stack, logUnsent_stack] using htop

/-! ### Steps -/

/-- The steps that remain go back on the stack. -/
theorem Owes.pushSteps (h : r.Owes terms past 0 calls) {rest : List (Step E P)}
    (hflat : IsFlat (.steps rest :: r.stack)) :
    (r.push (.steps rest)).Owes terms past 0 calls := by
  obtain ⟨live, kept, hlive, hkept, hsum⟩ := h.account
  refine ⟨h.service, h.transport, hflat, fun f hf ref hgoal => ?_, h.sent, live, kept, hlive, hkept,
    ?_⟩
  · rcases List.mem_cons.1 hf with rfl | hf
    · nomatch hgoal
    · exact h.goals f hf ref hgoal
  · rw [hsum, Run.push, List.map_cons, List.sum_cons]
    change _ = live + kept + (0 + (r.stack.map (Frame.arriving terms)).sum) + 0
    rw [Multiset.zero_add]

/-- **Starting a step**: a record call is owed from then on, and a harvest hands over nothing
yet. -/
theorem Owes.start {r : Run E Empty Unit} (h : r.Owes terms past 0 calls) (hs : r.Sound 0)
    {s : Step E Empty}
    (hstep : s.Submits ∨ ((∃ app, s = .harvest app) ∧ IsTop r.stack)) :
    (∀ c, r.callOf? s = some c → (r.start (.idle E) s).Owes terms past 0
      (owedAfter terms.policy terms.app calls (.recorded c.1 c.2))) ∧
    (r.callOf? s = none → (r.start (.idle E) s).Pays terms past calls) := by
  rcases hstep with hsubmits | ⟨⟨app, rfl⟩, htop⟩
  · cases hsubmits with
    | record hordinary hpriority hnumber hask hbuild hturns =>
      refine ⟨fun c hc => ?_, fun hnone => nomatch hnone⟩
      obtain rfl := Option.some.inj hc
      exact h.record hs (.record hordinary hpriority hnumber hask hbuild hturns)
  · exact ⟨fun c hc => (nomatch hc), fun _ => (h.harvest hs htop app).pays⟩

/-- The frames of records go on with events that are owed already. -/
theorem Owes.resumeSubmit {r : Run E Empty Unit} {f : Frame E Empty}
    (h : r.Owes terms past (f.arriving terms) calls) (hs : r.Sound 0) (hfits : f.Fits r.service)
    (hf : f.Submits) (hsteps : ∀ steps, f ≠ .steps steps)
    (hgoal : ∀ ref, f.goal? terms = some ref → r.service.liveRef? .ordinary terms.app = some ref) :
    (r.resume (.idle E) f).Owes terms past 0 calls := by
  cases f with
  | steps steps => exact absurd rfl (hsteps steps)
  | asked app job => exact h.afterAsk hs hf
  | compete kind app job =>
    cases kind with
    | ordinary => exact h.compete hs hf
    | synthetic => exact hf.elim
  | built app job namesVersion goal =>
    cases goal with
    | none => exact hf.elim
    | some ref =>
      refine h.afterBuild hs hf namesVersion hfits fun happ => ?_
      rw [happ]
      exact hgoal ref (if_pos happ)
  | offer kind app job ref =>
    cases kind with
    | ordinary =>
      refine h.offerTo hs hf hfits fun happ => ?_
      rw [happ]
      exact hgoal ref (if_pos happ)
    | synthetic => exact hf.elim
  | _ => exact hf.elim

/-- The frames of a harvest hand over at most what was due. -/
theorem Owes.resumeHarvest {r : Run E Empty Unit} {f : Frame E Empty} {kept : Multiset Int}
    (h : r.Owes terms past kept calls) (hs : r.Sound (0 + sending f)) (hfits : f.Fits r.service)
    (hkept : r.service.StandsFor terms kept (f.kept? terms)) (hf : f.IsHarvest)
    (htop : IsTop r.stack) (hcapacity : 0 < terms.capacity) :
    (r.resume (.idle E) f).Pays terms past calls := by
  cases f with
  | drain app budget =>
    obtain rfl : kept = 0 := hkept
    exact h.drain htop app budget
  | settleSynthetic app budget flight =>
    obtain rfl : kept = 0 := hkept
    exact (h.settleSynthetic htop app budget flight).pays
  | ordinary app =>
    obtain rfl : kept = 0 := hkept
    exact h.harvestOrdinary hs htop hcapacity app
  | settleOrdinary app flight => exact (h.settleOrdinary hs htop hfits hkept).pays
  | _ => exact hf.elim

variable (terms calls) in
/-- What a step does about what is owed: at most one moment comes of it, which was due, and the
account goes on. -/
def Honours (r r' : Run E P S) : Prop :=
  ∃ new : Option (Moment E), r.moments r' = new.toList ∧
    (∃ past, r'.Owes terms past 0 (new.toList.foldl (owedAfter terms.policy terms.app) calls)) ∧
    ∀ m ∈ new, IsDue terms calls m

theorem honours_of_call {r' : Run E P S} {c : String × Work E} (hsent : r.sent = past)
    (hcall : r.call? = some c)
    (h : r'.Owes terms past 0 (owedAfter terms.policy terms.app calls (.recorded c.1 c.2))) :
    r.Honours terms calls r' := by
  refine ⟨some (.recorded c.1 c.2), ?_, ⟨past, h⟩, fun m hm => ?_⟩
  · rw [moments_of_sent_eq (h.sent.trans hsent.symm), hcall]
    rfl
  · obtain rfl := Option.some.inj hm
    trivial

theorem honours_of_pays {r' : Run E P S} (hsent : r.sent = past) (hcall : r.call? = none)
    (h : r'.Pays terms past calls) : r.Honours terms calls r' := by
  obtain ⟨new, howes, hdue⟩ := h
  have hsent' := howes.sent
  rw [← hsent] at hsent'
  refine ⟨new, ?_, ⟨_, howes⟩, hdue⟩
  cases new with
  | none =>
    rw [moments_of_sent_eq hsent', hcall]
    rfl
  | some m => exact moments_of_sent_cons hcall hsent'

/-- **Each step** keeps the account, and what it hands over was due. -/
theorem Owes.step {r r' : Run E Empty Unit} (h : r.Owes terms past 0 calls) (hs : r.Sound 0)
    (hcapacity : 0 < terms.capacity) (hstep : r.step (.idle E) = some r') :
    r.Honours terms calls r' := by
  obtain ⟨f, rest, hstack, rfl⟩ := step_eq_some_iff.1 hstep
  obtain ⟨kept, hkept, hpopped⟩ := h.pop hstack
  have hmem : f ∈ r.stack := by
    rw [hstack]
    exact List.mem_cons_self
  have hsound := hs.pop hstack
  have hflat := h.flat
  rw [hstack] at hflat
  have hcall := call?_of_stack hstack
  by_cases hsteps : ∃ steps, f = .steps steps
  · obtain ⟨steps, rfl⟩ := hsteps
    obtain rfl : kept = 0 := hkept
    cases steps with
    | nil => exact honours_of_pays h.sent hcall hpopped.pays
    | cons s steps =>
      obtain ⟨hflat', hs'⟩ := hflat.steps
      have hpushed := hpopped.pushSteps hflat'
      have hstart : Kept (fun _ => ()) False 0 { r with stack := rest } 0
          (Run.push { r with stack := rest } (.steps steps)) 0 :=
        (Kept.refl hsound).push trivial rfl (Multiset.add_zero _)
      obtain ⟨hrecords, hothers⟩ := hpushed.start hstart.sound hs'
      rw [Run.push, callOf?_stack] at hrecords hothers
      change r.call? = callOf? { r with stack := rest } s at hcall
      cases hc : callOf? { r with stack := rest } s with
      | none => exact honours_of_pays h.sent (hcall.trans hc) (hothers hc)
      | some c => exact honours_of_call h.sent (hcall.trans hc) (hrecords c hc)
  · have hnone : r.call? = none := by
      rw [hcall]
      cases f with
      | steps steps => exact absurd ⟨steps, rfl⟩ hsteps
      | _ => rfl
    have hfits := hs.fits f hmem
    rcases hflat.submits fun steps hf => hsteps ⟨steps, hf⟩ with hf | ⟨hf, htop⟩
    · rw [hf.kept?_eq] at hkept
      obtain rfl : kept = 0 := hkept
      rw [Multiset.add_zero] at hpopped
      have hnot : sending f = 0 := by
        cases f with
        | settleSynthetic | settleOrdinary => exact hf.elim
        | _ => rfl
      rw [hnot] at hsound
      exact honours_of_pays h.sent hnone (hpopped.resumeSubmit hsound hfits hf
        (fun steps hf => hsteps ⟨steps, hf⟩) (h.goals f hmem)).pays
    · rw [hf.arriving_eq, Multiset.zero_add] at hpopped
      exact honours_of_pays h.sent hnone
        (hpopped.resumeHarvest hsound hfits hkept hf htop hcapacity)

/-- **A run** hands over nothing but what is due, each time. -/
theorem Owes.due {r : Run E Empty Unit} (h : r.Owes terms past 0 calls) (hs : r.Sound 0)
    (hcapacity : 0 < terms.capacity) (n : Nat) {before after : List (Moment E)} {m : Moment E}
    (hhistory : r.history (.idle E) n = before ++ m :: after) :
    IsDue terms (before.foldl (owedAfter terms.policy terms.app) calls) m := by
  induction n generalizing r past calls before with
  | zero => exact absurd hhistory.symm (List.append_ne_nil_of_right_ne_nil _ (List.cons_ne_nil _ _))
  | succ n ih =>
    cases hstep : r.step (.idle E) with
    | none =>
      rw [history_succ_of_none hstep] at hhistory
      exact absurd hhistory.symm (List.append_ne_nil_of_right_ne_nil _ (List.cons_ne_nil _ _))
    | some r' =>
      obtain ⟨new, hmoments, ⟨past', howes⟩, hdue⟩ := h.step hs hcapacity hstep
      have hkept : Kept (fun _ => ()) False _ r 0 r' 0 := hs.step rfl hstep
      rw [history_succ_of_some hstep, hmoments] at hhistory
      cases new with
      | none => exact ih howes hkept.sound hhistory
      | some m' =>
        cases before with
        | nil =>
          obtain ⟨rfl, -⟩ := List.cons.inj hhistory
          exact hdue m' rfl
        | cons m'' before =>
          obtain ⟨rfl, hrest⟩ := List.cons.inj hhistory
          exact ih howes hkept.sound hrest

/-! ### From the start -/

theorem owes_fresh {settings : Config.Settings} {transport : Transport E Empty}
    {steps : List (Step E Empty)} (henabled : settings.transactionEvents.enabled)
    (hcollected : (settings.forApp app).enabled) (htransport : transport.Submits)
    (hsteps : ∀ s ∈ steps, s.IsRoutine) (random : Random.Source) :
    (fresh settings transport steps random).Owes
      ⟨app, (settings.forApp app).maxSamplesStored, settings.harvest.unexpectedErrors⟩ [] 0 [] := by
  have hlive : Service.StandsFor (Service.create settings : Service E × List (Note E)).1
      ⟨app, (settings.forApp app).maxSamplesStored, settings.harvest.unexpectedErrors⟩ 0 none := rfl
  refine owes_of_isTop ⟨?_, ?_, fun hcon => (nomatch hcon), ?_, rfl⟩ htransport (fun f hf => ?_) rfl
    hlive rfl
  · change (settings.transactionEvents.enabled && !false) = true
    rw [henabled]
    rfl
  · rw [fresh, Service.appSettings_create]
    exact hcollected
  · rw [fresh, Service.appSettings_create]
  · obtain rfl := List.mem_singleton.1 hf
    exact ⟨steps, rfl, hsteps⟩

/-- **A retried harvest is transparent.** In a run of ordinary records, which may also run inside
sends, and of harvests at the top, each ordinary batch that is handed over for a collected
application counts as many tries as record calls are owed, and has the highest of their levels,
as many as the capacity allows. What is owed are the record calls since the latest batch of the
application that was not retried, and it would be the same had those not been attempted that
were. -/
theorem sent_eq_owed (settings : Config.Settings) (transport : Transport E Empty)
    (steps : List (Step E Empty)) (random : Random.Source) (n : Nat) (app : String)
    (henabled : settings.transactionEvents.enabled) (hcollected : (settings.forApp app).enabled)
    (hcapacity : 0 < (settings.forApp app).maxSamplesStored) (htransport : transport.Submits)
    (hsteps : ∀ s ∈ steps, s.IsRoutine) {before after : List (Moment E)} {batch : Batch E}
    {outcome : Outcome}
    (hhistory : (fresh settings transport steps random).history (.idle E) n =
      before ++ .sent .ordinary batch outcome :: after)
    (happ : batch.app = app) :
    let policy := settings.harvest.unexpectedErrors
    let calls := owed policy app before
    batch.tries = calls.length ∧
      batch.events.map (fun event => Double.level (HasPriority.priority event)) =
        highest (settings.forApp app).maxSamplesStored
          (calls.map fun work => Double.level work.priority : List Int) ∧
      calls = owed policy app (before.filter fun m => !m.isRetried policy) := by
  intro policy calls
  have howes := owes_fresh henabled hcollected htransport hsteps random
  have hdue := howes.due (sound_fresh settings transport steps random) hcapacity n hhistory
  obtain ⟨htries, hlevels⟩ := hdue happ
  exact ⟨htries, hlevels, (owed_filter policy app before).symm⟩

omit [HasPriority E] in
theorem submits_transaction (app name : String) (priority : Float)
    (h : Double.isNumber priority) :
    (Step.record app (transaction name priority) [] [] : Step Simulation.Event Empty).Submits := by
  refine .record rfl rfl h (fun s hm => absurd hm List.not_mem_nil)
    (fun s hm => absurd hm List.not_mem_nil) fun turn hturn s hm => ?_
  obtain rfl := List.mem_singleton.1 hturn
  exact absurd hm List.not_mem_nil

theorem sent_eq_owed_retriedRun : ∃ before batch outcome after,
    retriedRun.history (.idle _) 40 = before ++ .sent .ordinary batch outcome :: after ∧
      batch.app = "a" ∧ batch.tries = 3 := by
  have hfor : (retriedRun.history (.idle _) 40)[4]?.bind Moment.sentFor? = some "a" := by
    decide +kernel
  have howed : (owed .discard "a" ((retriedRun.history (.idle _) 40).take 4)).length = 3 := by
    decide +kernel
  obtain ⟨m, hm, hsent⟩ := Option.bind_eq_some_iff.1 hfor
  obtain ⟨batch, outcome, rfl, happ⟩ := Moment.sentFor?_eq_some hsent
  obtain ⟨hlt, hget⟩ := List.getElem?_eq_some_iff.1 hm
  have hsplit : retriedRun.history (.idle _) 40 =
      (retriedRun.history (.idle _) 40).take 4 ++ .sent .ordinary batch outcome ::
        (retriedRun.history (.idle _) 40).drop 5 := by
    rw [← hget, List.getElem_cons_drop, List.take_append_drop]
  have ha := submits_transaction "a" "a" 0.5 (by decide +kernel)
  have hb := submits_transaction "a" "b" 0.75 (by decide +kernel)
  have hc := submits_transaction "a" "c" 0.25 (by decide +kernel)
  refine ⟨_, batch, outcome, _, hsplit, happ, ?_⟩
  rw [← howed]
  refine (sent_eq_owed {} _ _ _ 40 "a" rfl rfl (by decide) ?_ ?_ hsplit happ).1
  · intro reply hreply s hm
    obtain rfl := List.mem_singleton.1 hreply
    obtain rfl := List.mem_singleton.1 hm
    exact hc
  · intro s hm
    simp only [List.mem_cons, List.not_mem_nil, or_false] at hm
    rcases hm with rfl | rfl | rfl | rfl
    · exact .inl ha
    · exact .inl hb
    · exact .inr ⟨"a", rfl⟩
    · exact .inr ⟨"a", rfl⟩

end Run

end Telemetry.Events
