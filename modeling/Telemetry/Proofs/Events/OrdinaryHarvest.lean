import Telemetry.Proofs.Events.Reached
import Telemetry.Proofs.Events.Serving
import Telemetry.Proofs.Sampling.Merging

/-!
# The ordinary half of a harvest

A harvest puts a new reservoir in the place of the live ordinary one of its application, and sends
what the old one held (`Run.harvest_ordinary`). What the new one holds afterwards depends on the
outcome of the send (`Service.Aftermath`):

| the send | the new reservoir |
|---|---|
| was not made, as there was nothing to send | is blank |
| succeeded, or failed for good | is blank |
| failed in passing | takes back what the old one held |
| failed in any other way | as the settings say |

The synthetic half goes first. It swaps out another reservoir and changes what waits in the
backlog, but the ordinary reservoir of the application is still there when its turn comes
(`Service.StillHolds`); that carries the induction on the batches that are sent before
(`Run.Ends.drain`).
-/

namespace Telemetry.Sampling.Reservoir

variable {E : Type}

/-- Nothing is retained, and no try has been counted. -/
structure IsBlank (r : Reservoir E) : Prop where
  retained : r.retained = 0
  tries : r.tries = 0

variable [HasPriority E]

/-- **A reservoir takes back** what another one held: its tries, and as many of its events as there
is room for, of which none is below one that is left out. -/
structure TakesBack (r old : Reservoir E) : Prop where
  tries : r.tries = old.tries
  size : r.size = min r.capacity old.size
  retained : ∃ lost, r.retained + lost = old.retained ∧
    ∀ d ∈ lost, ∀ e ∈ r.retained, HasPriority.priority d ≤ HasPriority.priority e

/-- Merging into a blank reservoir takes back what was merged. -/
theorem IsBlank.takesBack {a b : Reservoir E} (h : a.IsBlank) (ha : a.IsArranged)
    (hb : b.IsArranged) : (a.merge b).TakesBack b := by
  have hmerged := ha.isMerged hb
  obtain ⟨kept, lost, joined, refused, hown, hgiven, hretained, hbelow, -⟩ :=
    hmerged.isApportioned
  obtain ⟨rfl, rfl⟩ : kept = 0 ∧ lost = 0 := by
    rw [h.retained] at hown
    exact add_eq_zero.1 hown.symm
  rw [zero_add] at hretained
  refine ⟨?_, ?_, refused, by rw [hretained, hgiven], fun d hd e he => ?_⟩
  · rw [hmerged.tries, h.tries, Nat.zero_add]
  · have hcapacity : (a.merge b).capacity = a.capacity := congrArg (·.2.2.1) (a.shell_merge b)
    rw [hmerged.size, hcapacity, ← a.card_retained, h.retained, Multiset.card_zero, Nat.zero_add]
  · rw [hretained] at he
    exact hbelow d (by rwa [zero_add]) e (by rwa [zero_add])

end Telemetry.Sampling.Reservoir

namespace Telemetry.Events

open Config (UnexpectedErrorPolicy)
open Sampling (HasPriority Reservoir)

variable {E P S : Type}

namespace Service

variable {s s' s₁ : Service E} {app : String} {fresh : Ref}

/-! ### The ordinary reservoir before -/

/-- **The ordinary reservoir of an application is still there** in a service `s'` that was `s`. -/
structure StillHolds (app : String) (s s' : Service E) : Prop where
  size : s.pool.size ≤ s'.pool.size
  live : s'.liveRef? .ordinary app = s.liveRef? .ordinary app
  reservoir : ∀ {ref}, s.liveRef? .ordinary app = some ref → s'.reservoir ref = s.reservoir ref
  appSettings : s'.appSettings app = s.appSettings app
  settings : s'.settings = s.settings
  sound : s'.Sound 0
  isCandid : s'.IsCandid

theorem appSettings_askEnabled (s : Service E) (app app' : String) :
    (s.askEnabled app).2.appSettings app' = s.appSettings app' := by
  rw [askEnabled]
  split <;> rfl

theorem settings_askEnabled (s : Service E) (app : String) :
    (s.askEnabled app).2.settings = s.settings := by
  rw [askEnabled]
  split <;> rfl

theorem StillHolds.refl (hs : s.Sound 0) (hcandid : s.IsCandid) : s.StillHolds app s :=
  ⟨Nat.le_refl _, rfl, fun _ => rfl, rfl, rfl, hs, hcandid⟩

theorem StillHolds.withBacklog (h : s.StillHolds app s') (backlog : Backlog Ref) :
    s.StillHolds app { s' with backlog := backlog } where
  size := h.size
  live := h.live
  reservoir := h.reservoir
  appSettings := h.appSettings
  settings := h.settings
  sound := h.sound.grows (s'.grows_backlog (fun _ => False) backlog) fun hr =>
    ⟨hr, h.sound.isOpen hr⟩
  isCandid := h.isCandid.same rfl rfl fun _ => rfl

/-- An application that is collected is still collected. -/
theorem StillHolds.fst_askEnabled (h : s.StillHolds app s')
    (henabled : (s.appSettings app).enabled) : (s'.askEnabled app).1 = true := by
  rw [h.isCandid.fst_askEnabled, isCollected, h.appSettings]
  exact henabled

theorem StillHolds.askEnabled (h : s.StillHolds app s') (app' : String) :
    s.StillHolds app (s'.askEnabled app').2 where
  size := (congrArg Array.size (s'.sameReservoirs_askEnabled app').pool).ge.trans' h.size
  live := ((s'.sameReservoirs_askEnabled app').liveRef? _ _).trans h.live
  reservoir hr := ((s'.sameReservoirs_askEnabled app').reservoir _).trans (h.reservoir hr)
  appSettings := (s'.appSettings_askEnabled app' app).trans h.appSettings
  settings := (s'.settings_askEnabled app').trans h.settings
  sound := h.sound.sameReservoirs (s'.sameReservoirs_askEnabled app')
  isCandid := (s'.sameRules_askEnabled app').isCandid h.isCandid

/-- **The synthetic half** swaps out another reservoir. -/
theorem StillHolds.swapOut_synthetic (h : s.StillHolds app s') (app' : String) :
    s.StillHolds app (s'.swapOut .synthetic app').2 where
  size := h.size.trans (s'.grows_swapOut (fun _ => False) .synthetic app').size
  live := by
    rw [liveRef?_swapOut, if_neg fun hcon => nomatch hcon.1]
    exact h.live
  reservoir hr := by
    have hother : ¬ (Kind.ordinary = .synthetic ∧ app = app') := fun hcon => nomatch hcon.1
    rw [h.sound.reservoir_swapOut hother (h.live.trans hr)]
    exact h.reservoir hr
  appSettings := ((s'.sameSettings_swapOut .synthetic app').appSettings app).trans h.appSettings
  settings := (s'.sameSettings_swapOut .synthetic app').settings.trans h.settings
  sound := (h.sound.swapOut .synthetic app').mono (Multiset.zero_le _)
  isCandid := (s'.sameSettings_swapOut .synthetic app').sameRules.isCandid h.isCandid

theorem StillHolds.liveTries (h : s.StillHolds app s') :
    s'.liveTries .ordinary app = s.liveTries .ordinary app := by
  rw [Service.liveTries, Service.liveTries, h.live]
  cases hlive : s.liveRef? .ordinary app with
  | none => rfl
  | some ref => rw [Option.map_some, Option.map_some, h.reservoir hlive]

theorem StillHolds.freshReservoir (h : s.StillHolds app s') (decidedLast : Nat) :
    s'.freshReservoir .ordinary app decidedLast = s.freshReservoir .ordinary app decidedLast := by
  unfold Service.freshReservoir
  rw [h.appSettings]

/-! ### The swap -/

/-- **The ordinary reservoir of an application has been swapped out** for one that is made like any
other; nobody else has it. -/
structure Swapped (app : String) (s s' : Service E) (fresh : Ref) : Prop where
  isNew : s.pool.size ≤ fresh
  live : s'.liveRef? .ordinary app = some fresh
  fresh : s'.reservoir fresh = s.freshReservoir .ordinary app (s.liveTries .ordinary app)
  old : ∀ {old}, s.liveRef? .ordinary app = some old → old < s'.pool.size ∧
    s'.reservoir old = (s.reservoir old).sealed ∧ ∀ kind app', s'.liveRef? kind app' ≠ some old
  settings : s'.settings = s.settings
  sound : s'.Sound 0

theorem StillHolds.swapped (h : s.StillHolds app s') :
    s.Swapped app (s'.swapOut .ordinary app).2 s'.pool.size where
  isNew := h.size
  live := by rw [liveRef?_swapOut, if_pos ⟨rfl, rfl⟩]
  fresh := by rw [h.sound.reservoir_swapOut_self, h.liveTries, h.freshReservoir]
  old {old} hr := by
    have hlive := h.live.trans hr
    have hlt := (h.sound.live hlive).lt
    have hlt' := Nat.lt_of_lt_of_le hlt (s'.grows_install (fun _ => False) .ordinary app
      (s'.liveTries .ordinary app)).size
    refine ⟨?_, ?_, fun kind app' hcon => ?_⟩
    · rwa [swapOut_snd_of_some hlive, size_modify]
    · rw [swapOut_snd_of_some hlive, reservoir_modify_self hlt', reservoir_install hlt,
        h.reservoir hr]
    -- what is live now is new, or was live before for somebody else
    · rw [liveRef?_swapOut] at hcon
      split at hcon
      next => exact Nat.ne_of_gt hlt (Option.some.inj hcon)
      next hne => exact hne ((h.sound.live hcon).unique (h.sound.live hlive))
  settings := (s'.sameSettings_swapOut .ordinary app).settings.trans h.settings
  sound := (h.sound.swapOut .ordinary app).mono (Multiset.zero_le _)

theorem Swapped.ne (h : s.Swapped app s' fresh) {old : Ref}
    (hold : s.liveRef? .ordinary app = some old) : fresh ≠ old := by
  rintro rfl
  exact (h.old hold).2.2 .ordinary app h.live

/-- **The live ordinary reservoir of an application has been replaced**: the new one has what the
settings say, and knows the tries of the old one, which takes no more events. -/
structure Replaced (app : String) (s s' : Service E) (fresh : Ref) : Prop where
  isNew : s.pool.size ≤ fresh
  live : s'.liveRef? .ordinary app = some fresh
  isOpen : (s'.reservoir fresh).isSealed = false
  capacity : (s'.reservoir fresh).capacity = (s.appSettings app).maxSamplesStored
  target : (s'.reservoir fresh).target = (s.appSettings app).targetSamplesStored
  decidedLast : (s'.reservoir fresh).decidedLast =
    (s.liveRef? .ordinary app).elim 0 fun old => (s.reservoir old).tries
  retired : ∀ {old}, s.liveRef? .ordinary app = some old →
    (s'.reservoir old).isSealed ∧ ∀ kind app', s'.liveRef? kind app' ≠ some old

/-- A swap replaces, whatever the reservoirs hold afterwards. -/
theorem Swapped.replaced (h : s.Swapped app s₁ fresh) {spent : Ref → Prop}
    (hg : Grows spent s₁ s') (hs : s'.Sound 0) (hlive : s'.live = s₁.live) :
    s.Replaced app s' fresh := by
  have hsame : ∀ kind app', s'.liveRef? kind app' = s₁.liveRef? kind app' := fun kind app' =>
    congrArg (Store.get? · kind app') hlive
  have hfresh : s'.liveRef? .ordinary app = some fresh := (hsame .ordinary app).trans h.live
  have hshell := hg.shell fresh (h.sound.live h.live).lt
  rw [h.fresh] at hshell
  refine ⟨h.isNew, hfresh, hs.isOpen hfresh, congrArg (·.2.2.1) hshell,
    congrArg (·.2.2.2.2) hshell, (congrArg (·.2.2.2.1) hshell).trans ?_, fun {old} hold => ?_⟩
  · change Sampling.decidedLastOf ((s.liveRef? .ordinary app).map s.reservoir) = _
    cases s.liveRef? .ordinary app <;> rfl
  · obtain ⟨hlt, hsealed, hnot⟩ := h.old hold
    refine ⟨hg.isSealed old hlt (hsealed ▸ rfl), fun kind app' => ?_⟩
    rw [hsame]
    exact hnot kind app'

/-! ### The send -/

section Send

variable [HasPriority E]

/-- **What becomes of the events that were sent**, by the outcome: they are gone, or else the new
reservoir takes back what the old one held. -/
def Aftermath (policy : UnexpectedErrorPolicy) (old new : Reservoir E) : Outcome → Prop
  | none => new.IsBlank
  | some (.transient _) => new.TakesBack old
  | some (.permanent _) => new.IsBlank
  | some (.unexpected _) =>
    match policy with
    | .retry => new.TakesBack old
    | .discard => new.IsBlank

/-- **What is sent**, in favour of a new reservoir: a batch of all that the live one holds, if there
is one and it holds anything. -/
inductive SentOff (app : String) (s : Service E) : List (Batch E × Outcome) → Reservoir E → Prop
  | nothing {new : Reservoir E}
    (h : ∀ old, s.liveRef? .ordinary app = some old → (s.reservoir old).isEmpty)
    (hnew : new.IsBlank) : SentOff app s [] new
  | batch {old : Ref} {new : Reservoir E} {events : List E} {outcome : Outcome}
    (h : s.liveRef? .ordinary app = some old) (hheld : (s.reservoir old).isEmpty = false)
    (hevents : (events : Multiset E) = (s.reservoir old).retained)
    (hsorted : events.Pairwise fun a b =>
      Double.rank (HasPriority.priority b) ≤ Double.rank (HasPriority.priority a))
    (hnew : Aftermath s.settings.harvest.unexpectedErrors (s.reservoir old) new outcome) :
    SentOff app s
      [(⟨app, (s.reservoir old).capacity, (s.reservoir old).tries, events⟩, outcome)] new

/-- The service once the outcome of the send has come back. -/
def afterSend (s : Service E) (fresh old : Ref) : Outcome → Service E
  | none => s
  | some error =>
    if Run.isRetried error s.settings.harvest.unexpectedErrors then s.mergeInto fresh old
    else s.modify old (·.clear)

omit [HasPriority E] in
theorem Swapped.replaced_afterSend (h : s.Swapped app s₁ fresh) (old : Ref) (outcome : Outcome) :
    s.Replaced app (s₁.afterSend fresh old outcome) fresh := by
  have hclear := s₁.grows_modify (fun _ => True) old (fun r => r.shell_clear) (fun _ hr => hr)
    (.inl trivial)
  cases outcome with
  | none => exact h.replaced (.refl (fun _ => False) s₁) h.sound rfl
  | some error =>
    rw [afterSend]
    split
    · refine h.replaced (h.sound.grows_mergeInto h.live) (h.sound.mergeInto fresh old) ?_
      rw [mergeInto]
      split <;> rfl
    · exact h.replaced hclear (h.sound.modify old (fun r => r.shell_clear) fun _ => rfl) rfl

omit [HasPriority E] in
/-- The batch is that of the reservoir before it was sealed. -/
theorem Swapped.batch (h : s.Swapped app s₁ fresh) (hs : s.Sound 0) {old : Ref}
    (hold : s.liveRef? .ordinary app = some old) :
    s₁.batch old = ⟨app, (s.reservoir old).capacity, (s.reservoir old).tries,
      (s.reservoir old).toList⟩ := by
  rw [Service.batch, (h.old hold).2.1, ← (hs.live hold).app]
  rfl

omit [HasPriority E] in
theorem Swapped.isBlank (h : s.Swapped app s₁ fresh) : (s₁.reservoir fresh).IsBlank := by
  rw [h.fresh]
  exact ⟨rfl, rfl⟩

/-- The batch is merged into the reservoir that has taken the place of its own. -/
theorem Swapped.takesBack (h : s.Swapped app s₁ fresh) (hregular : s.IsRegular) {old : Ref}
    (hold : s.liveRef? .ordinary app = some old) :
    ((s₁.mergeInto fresh old).reservoir fresh).TakesBack (s.reservoir old) := by
  have hold' : (s.reservoir old).sealed.IsArranged :=
    (hregular old).toIsArranged.of_heap_eq rfl rfl rfl
  have hfresh : (s₁.reservoir fresh).IsArranged := by
    rw [h.fresh]
    exact Reservoir.isArranged_of_heap_eq_empty rfl
  have htaken := h.isBlank.takesBack hfresh hold'
  rw [reservoir_mergeInto_self (h.sound.live h.live).lt (h.ne hold), (h.old hold).2.1]
  exact ⟨htaken.tries, htaken.size, htaken.retained⟩

/-- **Each outcome has its aftermath.** -/
theorem Swapped.aftermath (h : s.Swapped app s₁ fresh) (hregular : s.IsRegular) {old : Ref}
    (hold : s.liveRef? .ordinary app = some old) (outcome : Outcome) :
    Aftermath s.settings.harvest.unexpectedErrors (s.reservoir old)
      ((s₁.afterSend fresh old outcome).reservoir fresh) outcome := by
  have hblank := h.isBlank
  have hcleared : ((s₁.modify old (·.clear)).reservoir fresh).IsBlank := by
    rw [reservoir_modify_of_ne _ (h.ne hold)]
    exact hblank
  have htaken := h.takesBack hregular hold
  cases outcome with
  | none => exact hblank
  | some error =>
    rw [afterSend, h.settings]
    cases error with
    | transient message => exact htaken
    | permanent message => exact hcleared
    | unexpected causes =>
      cases hpolicy : s.settings.harvest.unexpectedErrors with
      | retry => exact htaken
      | discard => exact hcleared

end Send

end Service

/-! ### What comes before -/

/-- A transport that runs nothing inside its sends goes on that way. -/
theorem Run.during_replyTo {r : Run E P S} (h : ∀ reply ∈ r.transport.planned, reply.during = [])
    (ref : Ref) :
    (r.replyTo ref).during = [] ∧
      ∀ reply ∈ (r.transportAfter ref).planned, reply.during = [] := by
  have hnone : ∀ reply ∈ r.transport.planned, ∀ s ∈ reply.during, False := fun reply hm s hs => by
    rw [h reply hm] at hs
    exact List.not_mem_nil hs
  obtain ⟨hnext, hrest⟩ :=
    Transport.forall_send (p := fun _ => False) hnone (r.service.batch ref)
  exact ⟨List.eq_nil_iff_forall_not_mem.2 hnext, fun reply hm =>
    List.eq_nil_iff_forall_not_mem.2 (hrest reply hm)⟩

/-- The ordinary batch that is being handed over, and the outcome to come. -/
def Note.ordinarySend? : Note E → Option (Batch E × Outcome)
  | .attempt .ordinary batch outcome => some (batch, outcome)
  | _ => none

namespace Run

/-- The ordinary batches handed to the transport, with their outcomes, latest first. -/
def ordinarySends (r : Run E P S) : List (Batch E × Outcome) :=
  r.notes.filterMap Note.ordinarySend?

@[simp] theorem ordinarySends_note (r : Run E P S) (n : Note E) :
    (r.note n).ordinarySends = n.ordinarySend?.toList ++ r.ordinarySends :=
  r.filterMap_note n fun h => by cases n <;> first | rfl | exact absurd h (by simp [Note.isPublic])

/-- Nothing else runs, and these are the ordinary batches sent so far. -/
structure HasSent (sends : List (Batch E × Outcome)) (r : Run E P S) : Prop where
  stack : r.stack = [.steps []]
  sends : r.ordinarySends = sends

/-- **The ordinary half of a harvest is ahead**: no ordinary batch has been sent, and the ordinary
reservoir of the service `s` is still there. -/
structure IsAhead (app : String) (s : Service E) (r : Run E P S) : Prop extends r.HasSent [] where
  quiet : ∀ reply ∈ r.transport.planned, reply.during = []
  service : s.StillHolds app r.service

section Ahead

variable {app : String} {s : Service E} {r : Run E P S} {sends : List (Batch E × Outcome)}

theorem HasSent.note (h : r.HasSent sends) {n : Note E} (hn : n.ordinarySend? = none) :
    (r.note n).HasSent sends where
  stack := (note_stack r n).trans h.stack
  sends := by
    rw [ordinarySends_note, hn, h.sends]
    rfl

theorem HasSent.withService (h : r.HasSent sends) (s : Service E) :
    (r.withService s).HasSent sends := ⟨h.stack, h.sends⟩

theorem IsAhead.note (h : r.IsAhead app s) {n : Note E} (hn : n.ordinarySend? = none) :
    (r.note n).IsAhead app s where
  toHasSent := h.toHasSent.note hn
  quiet := by
    rw [note_transport]
    exact h.quiet
  service := by
    rw [note_service]
    exact h.service

theorem IsAhead.logUnsent (h : r.IsAhead app s) (app' message : String) (error : TransmitError) :
    (r.logUnsent app' message error).IsAhead app s := h.note rfl

theorem IsAhead.withService (h : r.IsAhead app s) {s' : Service E} (hs : s.StillHolds app s') :
    (r.withService s').IsAhead app s := ⟨h.toHasSent.withService s', h.quiet, hs⟩

theorem IsAhead.withBacklog (h : r.IsAhead app s) (backlog : Backlog Ref) :
    (r.withService { r.service with backlog := backlog }).IsAhead app s :=
  h.withService (h.service.withBacklog backlog)

theorem IsAhead.enqueue (h : r.IsAhead app s) (app' : String) (ref : Ref) :
    (r.enqueue app' ref).IsAhead app s := by
  rw [Run.enqueue]
  split
  · exact h.withBacklog _
  · exact IsAhead.note (h.note rfl) rfl

theorem IsAhead.requeue (h : r.IsAhead app s) (ref : Ref) : (r.requeue ref).IsAhead app s := by
  have hback := h.withBacklog (r.service.backlog.requeue ref).2
  rw [Run.requeue]
  generalize r.service.backlog.requeue ref = result at hback ⊢
  obtain ⟨dropped, backlog⟩ := result
  cases dropped with
  | none => exact hback
  | some ref' => exact IsAhead.note (hback.note rfl) rfl

variable [HasPriority E] {observer : Observer E P S} {p : Run E P S → Prop}

/-- **A send** inside which nothing runs. -/
theorem Ends.send (h : r.HasSent sends) (hquiet : ∀ reply ∈ r.transport.planned, reply.during = [])
    {kind : Kind} {ref : Ref} {settle : Flight E → Frame E P}
    (hp : ∀ (outcome : Outcome) (r' : Run E P S), r'.service = r.service →
      (∀ reply ∈ r'.transport.planned, reply.during = []) →
      r'.HasSent ((Note.attempt kind (r.service.batch ref) outcome).ordinarySend?.toList ++ sends) →
      (r'.resume observer (settle ⟨ref, r.service.batch ref, outcome⟩)).Ends observer p) :
    (r.send kind ref settle).Ends observer p := by
  obtain ⟨hduring, hrest⟩ := during_replyTo hquiet ref
  rw [send_eq, hduring]
  refine .within (hp _ _ (note_service _ _) ?_ ⟨(note_stack _ _).trans h.stack, ?_⟩)
  · rwa [note_transport]
  · rw [ordinarySends_note, ← h.sends]
    rfl

/-- **Any synthetic batch** may be sent before. -/
theorem Ends.send_synthetic (h : r.IsAhead app s) {ref : Ref} {settle : Flight E → Frame E P}
    (hp : ∀ flight (r' : Run E P S), r'.IsAhead app s →
      (r'.resume observer (settle flight)).Ends observer p) :
    (r.send .synthetic ref settle).Ends observer p :=
  .send h.toHasSent h.quiet fun _ r' hservice hquiet hsent =>
    hp _ r' ⟨hsent, hquiet, hservice ▸ h.service⟩

/-- The drain is over, and it is the turn of the ordinary reservoir. -/
theorem Ends.endDrain (h : r.IsAhead app s)
    (hp : ∀ r' : Run E P S, r'.IsAhead app s → (r'.harvestOrdinary app).Ends observer p) :
    (r.endDrain app).Ends observer p :=
  .push (hp _ (h.note rfl))

/-- The outcome of a synthetic batch ends the drain, or lets it go on. -/
theorem Ends.settleSynthetic (h : r.IsAhead app s) {budget : Nat}
    (hdrain : ∀ r' : Run E P S, r'.IsAhead app s → (r'.drain app budget).Ends observer p)
    (hp : ∀ r' : Run E P S, r'.IsAhead app s → (r'.harvestOrdinary app).Ends observer p)
    (flight : Flight E) : (r.settleSynthetic app budget flight).Ends observer p := by
  have hsettled : ∀ outcome,
      (r.note (.settled .synthetic flight.batch outcome)).IsAhead app s := fun outcome => h.note rfl
  rw [Run.settleSynthetic]
  cases flight.outcome with
  -- only a success lets the drain go on
  | none => exact .push (hdrain _ ((hsettled none).note rfl))
  | some error =>
    have hlogged := fun message => (hsettled (some error)).logUnsent flight.batch.app message error
    simp only
    split
    · exact .endDrain (((hlogged _).note rfl).requeue flight.ref) hp
    · exact .endDrain ((hlogged _).note rfl) hp

/-- **The drain**, batch by batch: whatever the outcomes, it comes to its end. -/
theorem Ends.drain (h : r.IsAhead app s)
    (hp : ∀ r' : Run E P S, r'.IsAhead app s → (r'.harvestOrdinary app).Ends observer p)
    (budget : Nat) : (r.drain app budget).Ends observer p := by
  induction budget generalizing r with
  | zero => exact .endDrain h hp
  | succ budget ih =>
    unfold Run.drain Backlog.pop?
    cases r.service.backlog.queue with
    | nil => exact .endDrain h hp
    | cons ref rest =>
      exact .send_synthetic (h.withBacklog _) fun flight r' hr' =>
        .settleSynthetic hr' (fun _ => ih) hp flight

/-- **The synthetic half** of a harvest. -/
theorem Ends.harvest (h : r.IsAhead app s) (hactive : r.service.isActive)
    (hp : ∀ r' : Run E P S, r'.IsAhead app s → (r'.harvestOrdinary app).Ends observer p) :
    (r.harvest app).Ends observer p := by
  have hstart : (r.withAnswer .none).IsAhead app s := ⟨⟨h.stack, h.sends⟩, h.quiet, h.service⟩
  have hswapped := hstart.withService (hstart.service.swapOut_synthetic app)
  have hactive' : (r.withAnswer .none).service.isActive = true := hactive
  rw [Run.harvest]
  generalize r.withAnswer .none = r at hactive' hswapped ⊢
  simp only [hactive', Bool.not_true, Bool.false_eq_true, if_false]
  generalize r.service.swapOut .synthetic app = result at hswapped ⊢
  obtain ⟨swapped, s'⟩ := result
  refine .push (f := .drain app _) (Ends.drain ?_ hp _)
  cases swapped with
  | none => exact hswapped
  | some ref =>
    simp only
    split
    · exact hswapped
    · exact hswapped.enqueue app ref

/-! ### The ordinary half -/

omit [HasPriority E] in
/-- The outcome of an ordinary batch changes the service, and sends nothing. -/
theorem HasSent.settleOrdinary (h : r.HasSent sends) {fresh : Ref}
    (hlive : r.service.liveRef? .ordinary app = some fresh) (flight : Flight E) :
    (r.settleOrdinary app flight).HasSent sends ∧
      (r.settleOrdinary app flight).service =
        r.service.afterSend fresh flight.ref flight.outcome := by
  have hsettled : ∀ outcome, (r.note (.settled .ordinary flight.batch outcome)).HasSent sends :=
    fun outcome => h.note rfl
  rw [Run.settleOrdinary]
  cases flight.outcome with
  | none =>
    refine ⟨HasSent.note (HasSent.note (HasSent.note ((hsettled none).note rfl) rfl) rfl) rfl, ?_⟩
    simp [log, Service.afterSend]
  | some error =>
    have hlogged : ∀ message,
        ((r.note (.settled .ordinary flight.batch (some error))).logUnsent app message
          error).HasSent sends := fun message => (hsettled (some error)).note rfl
    simp only [note_service, logUnsent_service, Service.getOrCreate_of_some hlive,
      Service.afterSend]
    split
    · exact ⟨((hlogged _).withService _).note rfl, note_service _ _⟩
    · exact ⟨((hlogged _).withService _).note rfl, note_service _ _⟩

/-- **The outcome of an ordinary batch** has its aftermath. -/
theorem Ends.settleOrdinary {fresh : Ref} {flight : Flight E}
    (hswapped : s.Swapped app r.service fresh) (hs : s.Sound 0) (hregular : s.IsRegular)
    (hlive : s.liveRef? .ordinary app = some flight.ref)
    (hheld : (s.reservoir flight.ref).isEmpty = false)
    (h : r.HasSent [(r.service.batch flight.ref, flight.outcome)])
    (hp : ∀ (r' : Run E P S) fresh, s.Replaced app r'.service fresh →
      s.SentOff app r'.ordinarySends (r'.service.reservoir fresh) → p r') :
    (r.settleOrdinary app flight).Ends observer p := by
  have harranged := (hregular flight.ref).toIsArranged
  obtain ⟨hdone, hservice⟩ := h.settleOrdinary hswapped.live flight
  refine .last hdone.stack (hp _ fresh ?_ ?_)
  · change s.Replaced app (r.settleOrdinary app flight).service fresh
    rw [hservice]
    exact hswapped.replaced_afterSend flight.ref flight.outcome
  · change s.SentOff app (r.settleOrdinary app flight).ordinarySends
      ((r.settleOrdinary app flight).service.reservoir fresh)
    rw [hdone.sends, hservice, hswapped.batch hs hlive]
    exact .batch hlive hheld (Reservoir.coe_toList _) harranged.pairwise_toList
      (hswapped.aftermath hregular hlive flight.outcome)

/-- **The ordinary half of a harvest**: swap, send, and what comes of the outcome. -/
theorem Ends.harvestOrdinary (h : r.IsAhead app s) (henabled : (s.appSettings app).enabled)
    (hs : s.Sound 0) (hregular : s.IsRegular)
    (hp : ∀ (r' : Run E P S) fresh, s.Replaced app r'.service fresh →
      s.SentOff app r'.ordinarySends (r'.service.reservoir fresh) → p r') :
    (r.harvestOrdinary app).Ends observer p := by
  have hcollected := h.service.fst_askEnabled henabled
  have hasked := h.service.askEnabled app
  rw [Run.harvestOrdinary]
  generalize r.service.askEnabled app = result at hcollected hasked ⊢
  obtain ⟨collected, s₁⟩ := result
  obtain rfl : collected = true := hcollected
  have hswapped := hasked.swapped
  have hprevious : (s₁.swapOut .ordinary app).1 = s.liveRef? .ordinary app :=
    (s₁.swapOut_fst .ordinary app).trans hasked.live
  simp only [Bool.not_true, Bool.false_eq_true, if_false]
  generalize s₁.swapOut .ordinary app = result at hswapped hprevious ⊢
  obtain ⟨previous, s₂⟩ := result
  obtain rfl : previous = s.liveRef? .ordinary app := hprevious
  have hreplaced := hswapped.replaced (.refl (fun _ => False) s₂) hswapped.sound rfl
  -- with nothing to send, the swap is all there is
  have hnothing : (∀ old, s.liveRef? .ordinary app = some old → (s.reservoir old).isEmpty) →
      (r.withService s₂).Ends observer p := fun hidle =>
    .last h.stack (hp _ _ hreplaced (h.sends ▸ .nothing hidle hswapped.isBlank))
  cases hlive : s.liveRef? .ordinary app with
  | none =>
    refine hnothing fun old hold => ?_
    rw [hlive] at hold
    exact absurd hold.symm (Option.some_ne_none old)
  | some old =>
    obtain ⟨-, hsealed, -⟩ := hswapped.old hlive
    simp only
    split
    next hempty =>
      rw [hsealed] at hempty
      refine hnothing fun old' hold => ?_
      obtain rfl := Option.some.inj (hlive.symm.trans hold)
      exact hempty
    next hheld =>
      -- the reservoir has been sealed since, which its batch does not show
      rw [hsealed] at hheld
      have hgauged : ((r.withService s₂).note (.gauged "events.harvest.limit"
          (s₂.reservoir old).capacity [appTag app])).HasSent [] :=
        (h.toHasSent.withService s₂).note rfl
      refine .send hgauged (by rw [note_transport]; exact h.quiet)
        fun outcome r' hservice _ hsent => ?_
      rw [note_service] at hservice hsent
      obtain rfl := hservice.symm
      exact .settleOrdinary hswapped hs hregular hlive (eq_false_of_ne_true hheld) hsent hp

end Ahead

/-- **The ordinary half of a harvest.** Whatever the service and the outcomes of its sends, a
harvest replaces the live ordinary reservoir of its application, if that one holds anything sends
all of it in one batch, and leaves in the new one what the outcome says. -/
theorem harvest_ordinary [HasPriority E] {s : Service E} (hs : s.IsReached)
    {transport : Transport E Empty} (hquiet : ∀ reply ∈ transport.planned, reply.during = [])
    (random : Random.Source) {app : String} (hactive : s.isActive)
    (henabled : (s.appSettings app).enabled) :
    let r := (calling s transport random).perform (.idle E) (.harvest app)
    r.stack = [] ∧ ∃ fresh, s.Replaced app r.service fresh ∧
      s.SentOff app r.ordinarySends (r.service.reservoir fresh) := by
  have hproper := isProper_calling hs transport random
  have hsound : s.Sound 0 := hproper.sound.service.mono (Multiset.zero_le _)
  have hahead : ((calling s transport random).push (.steps [])).IsAhead app s :=
    ⟨⟨rfl, rfl⟩, hquiet, .refl hsound hs.isCandid⟩
  have hends : (((calling s transport random).push (.steps [])).start (.idle E)
      (.harvest app)).Ends (.idle E) fun r => ∃ fresh, s.Replaced app r.service fresh ∧
        s.SentOff app r.ordinarySends (r.service.reservoir fresh) :=
    .harvest hahead hactive fun _ hr => .harvestOrdinary hr henabled hsound hproper.regular
      fun _ fresh hreplaced hsent => ⟨fresh, hreplaced, hsent⟩
  exact hends.perform hproper

open Simulation (Event) in
/-- A service that holds two events of an application, for which there is room for one only from
now on. -/
def shrunkService : Service Event :=
  ((fresh {} {} [.record "a" (transaction "a" 0.5) [] [], .record "a" (transaction "b" 0.75) [] [],
    .change (.app "a" { maxSamplesStored := 1 })] (.ofSeed 0)).advance (.idle _) 30).service

open Simulation (Event) in
/-- A transport that fails in passing, but only once. -/
def failingOnce : Transport Event Empty := { planned := [⟨some (.transient "down"), []⟩] }

open Simulation (Event) in
/-- A harvest that fails in passing keeps the better event, and both tries. -/
theorem harvest_ordinary_shrunkService :
    let r := (calling shrunkService failingOnce (.ofSeed 0)).perform (.idle Event) (.harvest "a")
    (∃ fresh, shrunkService.Replaced "a" r.service fresh ∧
      shrunkService.SentOff "a" r.ordinarySends (r.service.reservoir fresh)) ∧
      ((r.service.liveRef? .ordinary "a").map fun ref =>
        ((r.service.reservoir ref).tries, (r.service.reservoir ref).toList.map (·.name))) =
        some (2, ["b"]) := by
  have hreached : shrunkService.IsReached := ⟨_, _, _, _, 30, rfl⟩
  have hquiet : ∀ reply ∈ failingOnce.planned, reply.during = [] := by simp [failingOnce]
  have henabled : (shrunkService.appSettings "a").enabled := by decide +kernel
  have hharvest := harvest_ordinary hreached hquiet (.ofSeed 0) (by decide +kernel) henabled
  exact ⟨hharvest.2, by decide +kernel⟩

end Run

end Telemetry.Events
