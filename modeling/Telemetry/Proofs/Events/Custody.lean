import Telemetry.Proofs.Events.Run

/-!
# Events move from hand to hand

No step of a run copies an event. `Run.Sound` is the invariant: besides
`Service.Sound` for the reservoirs set aside, every frame fits the reservoirs it refers to,
and a batch that is being sent is still what its reservoir holds.

`Kept` relates a run to a later one: the invariant holds again, and nothing has been added to
`Run.total` but what was given. Something may have been lost on the way, but not under the
condition `calm`, which stands for whatever is known about the run besides the invariant. Each
function of `Telemetry.Events.Run` has one lemma, a chain of the moves of the first sections.

The invariant mentions reservoirs in *hand*: taken from one place and not yet put into
another.
-/

namespace Telemetry.Events

open Sampling (HasPriority Offer)
open Sampling.Reservoir (accepted)
open Service (Grows)

variable {E P S T : Type}

/-! ### The invariant -/

/-- What a frame relies on. -/
def Frame.Fits (s : Service E) : Frame E P → Prop
  | .built app _ _ (some ref) => s.Belongs .ordinary app ref
  | .offer kind app _ ref => s.Belongs kind app ref
  | .settleSynthetic _ _ flight =>
    flight.batch = s.batch flight.ref ∧ ∃ app, s.Belongs .synthetic app flight.ref
  | .settleOrdinary app flight =>
    flight.batch = s.batch flight.ref ∧ s.Belongs .ordinary app flight.ref
  | _ => True

/-- A frame goes on to fit as long as the reservoir that it is sending is left alone. -/
theorem Frame.Fits.grows {s s' : Service E} {spent : Ref → Prop} {f : Frame E P} (h : f.Fits s)
    (hg : Grows spent s s')
    (hflight : ∀ flight, f.flight? = some flight → flight.ref < s.pool.size ∧
      (s.reservoir flight.ref).isSealed ∧ ¬ spent flight.ref) : f.Fits s' := by
  have hbatch : ∀ flight, f.flight? = some flight → s'.batch flight.ref = s.batch flight.ref := by
    intro flight hf
    obtain ⟨hlt, hsealed, hkept⟩ := hflight flight hf
    rw [Service.batch, Service.batch, hg.frozen _ hlt hsealed hkept]
  cases f with
  | built app job namesVersion goal =>
    cases goal with
    | none => trivial
    | some ref => exact Service.Belongs.grows h hg
  | offer kind app job ref => exact Service.Belongs.grows h hg
  | settleSynthetic app budget flight =>
    obtain ⟨hb, app, hbelongs⟩ := h
    exact ⟨hb.trans (hbatch flight rfl).symm, app, hbelongs.grows hg⟩
  | settleOrdinary app flight =>
    obtain ⟨hb, hbelongs⟩ := h
    exact ⟨hb.trans (hbatch flight rfl).symm, hbelongs.grows hg⟩
  | _ => trivial

namespace Run

/-- **The invariant of a run** that has the reservoirs of `hand` in hand. -/
structure Sound (r : Run E P S) (hand : Multiset Ref) : Prop where
  service : r.service.Sound (r.aside + hand)
  fits : ∀ f ∈ r.stack, f.Fits r.service
  /-- Only synthetic reservoirs wait. -/
  waiting : ∀ ref ∈ r.service.backlog.queue, ∃ app, r.service.Belongs .synthetic app ref

theorem mem_aside_of_flight {r : Run E P S} {f : Frame E P} {flight : Flight E} (hf : f ∈ r.stack)
    (hflight : f.flight? = some flight) : flight.ref ∈ r.aside :=
  Multiset.mem_add.2 (.inr (Multiset.mem_coe.2 (List.mem_map.2
    ⟨flight, List.mem_filterMap.2 ⟨f, hf, hflight⟩, rfl⟩)))

theorem Sound.fits_grows {r : Run E P S} {hand : Multiset Ref} (h : r.Sound hand) {s : Service E}
    {spent : Ref → Prop} (hg : Grows spent r.service s) (hspent : ∀ ref ∈ r.aside, ¬ spent ref) :
    ∀ f ∈ r.stack, f.Fits s := by
  intro f hf
  refine (h.fits f hf).grows hg fun flight hflight => ?_
  have hm := mem_aside_of_flight hf hflight
  have hmem : flight.ref ∈ r.aside + hand := Multiset.mem_add.2 (.inl hm)
  exact ⟨h.service.lt hmem, h.service.isSealed hmem, hspent _ hm⟩

/-- **What becomes of the events**, from `r` with `hand` to `r'` with `hand'`. -/
structure Kept (label : String → T) (calm : Prop) (given : Multiset (T × String × E))
    (r : Run E P S) (hand : Multiset Ref) (r' : Run E P S) (hand' : Multiset Ref) : Prop where
  sound : r'.Sound hand'
  /-- Nothing is added but what is given. -/
  total : ∃ lost, r'.total label hand' + lost = r.total label hand + given ∧ (calm → lost = 0)
  /-- What is handed to the transport was there. -/
  attempted : ∀ b ∈ r'.attempted, b ∈ r.attempted ∨
    b.2.parcels label b.1 ≤ r.total label hand + given

variable {label : String → T} {calm : Prop} {given given' : Multiset (T × String × E)}
  {r r' r'' : Run E P S} {hand hand' hand'' : Multiset Ref}

theorem Kept.refl (h : r.Sound hand) : Kept label calm 0 r hand r hand :=
  ⟨h, ⟨0, rfl, fun _ => rfl⟩, fun _ hb => .inl hb⟩

theorem Kept.total_le (h : Kept label calm given r hand r' hand') :
    r'.total label hand' ≤ r.total label hand + given := by
  obtain ⟨lost, hlost, -⟩ := h.total
  rw [← hlost]
  exact Multiset.le_add_right _ _

theorem Kept.total_eq (h : Kept label True given r hand r' hand') :
    r'.total label hand' = r.total label hand + given := by
  obtain ⟨lost, hlost, hcalm⟩ := h.total
  rw [← hlost, hcalm trivial, Multiset.add_zero]

theorem Kept.trans (h : Kept label calm given r hand r' hand')
    (h' : Kept label calm given' r' hand' r'' hand'') :
    Kept label calm (given + given') r hand r'' hand'' := by
  obtain ⟨lost, hlost, hcalm⟩ := h.total
  obtain ⟨lost', hlost', hcalm'⟩ := h'.total
  refine ⟨h'.sound, ⟨lost + lost', ?_, fun hc => ?_⟩, fun b hb => ?_⟩
  · calc r''.total label hand'' + (lost + lost') = r''.total label hand'' + lost' + lost := by abel
      _ = r'.total label hand' + lost + given' := by
        rw [hlost']
        abel
      _ = r.total label hand + (given + given') := by
        rw [hlost]
        abel
  · rw [hcalm hc, hcalm' hc, Multiset.add_zero]
  · rcases h'.attempted b hb with hb | hle
    · exact (h.attempted b hb).imp_right fun hle =>
        hle.trans (add_le_add le_rfl (Multiset.le_add_right _ _))
    · refine .inr (hle.trans ?_)
      rw [← Multiset.add_assoc]
      exact add_le_add h.total_le le_rfl

/-- A move that is given nothing, and then another. -/
theorem Kept.andThen (h : Kept label calm 0 r hand r' hand')
    (h' : Kept label calm given r' hand' r'' hand'') : Kept label calm given r hand r'' hand'' := by
  have htrans := h.trans h'
  rwa [Multiset.zero_add] at htrans

/-- A move, and then another that is given nothing. -/
theorem Kept.followedBy (h : Kept label calm given r hand r' hand')
    (h' : Kept label calm 0 r' hand' r'' hand'') : Kept label calm given r hand r'' hand'' := by
  have htrans := h.trans h'
  rwa [Multiset.add_zero] at htrans

/-- Something given may be lost on the spot. -/
theorem Kept.lose (h : Kept label calm given r hand r' hand') (hcalm : ¬ calm)
    (hle : given ≤ given') : Kept label calm given' r hand r' hand' := by
  obtain ⟨more, rfl⟩ := Multiset.le_iff_exists_add.1 hle
  obtain ⟨lost, hlost, -⟩ := h.total
  refine ⟨h.sound, ⟨lost + more, ?_, fun hc => absurd hc hcalm⟩, fun b hb => ?_⟩
  · rw [← Multiset.add_assoc, hlost, Multiset.add_assoc]
  · exact (h.attempted b hb).imp_right fun hle => hle.trans (add_le_add le_rfl ‹_›)

/-! ### Moves that leave the reservoirs alone -/

/-- Only the service, the stack, and the notes about batches matter. -/
theorem Kept.same (h : Kept label calm given r hand r' hand') (hservice : r''.service = r'.service)
    (hstack : r''.stack = r'.stack) (hdelivered : r''.delivered = r'.delivered)
    (hattempted : r''.attempted = r'.attempted) : Kept label calm given r hand r'' hand' := by
  have haside : r''.aside = r'.aside := by rw [aside, aside, flights, flights, hservice, hstack]
  refine ⟨⟨?_, ?_, ?_⟩, ?_, ?_⟩
  · rw [hservice, haside]
    exact h.sound.service
  · rw [hservice, hstack]
    exact h.sound.fits
  · rw [hservice]
    exact h.sound.waiting
  · rw [Run.total, hservice, haside, hstack, hdelivered]
    exact h.total
  · rw [hattempted]
    exact h.attempted

theorem Kept.note (h : Kept label calm given r hand r' hand') {n : Note E} (hn : n.IsQuiet) :
    Kept label calm given r hand (r'.note n) hand' :=
  h.same (note_service r' n) (note_stack r' n) (by rw [delivered_note, hn.delivered]; rfl)
    (by rw [attempted_note, hn.attempted]; rfl)

theorem Kept.noteAll (h : Kept label calm given r hand r' hand') {ns : List (Note E)}
    (hns : ∀ n ∈ ns, n.IsQuiet) : Kept label calm given r hand (r'.noteAll ns) hand' := by
  induction ns generalizing r' with
  | nil => exact h
  | cons n ns ih =>
    exact ih (h.note (hns n List.mem_cons_self)) fun m hm => hns m (List.mem_cons_of_mem n hm)

theorem Kept.log (h : Kept label calm given r hand r' hand') (severity : Log.Severity)
    (source message : String) (fields : List (String × Log.FieldValue)) :
    Kept label calm given r hand (r'.log severity source message fields) hand' :=
  h.note (Note.isQuiet_record _)

theorem Kept.logUnsent (h : Kept label calm given r hand r' hand') (app message : String)
    (error : TransmitError) :
    Kept label calm given r hand (r'.logUnsent app message error) hand' :=
  h.log _ _ _ _

theorem Kept.withAnswer (h : Kept label calm given r hand r' hand') (a : Answer) :
    Kept label calm given r hand (r'.withAnswer a) hand' :=
  h.same rfl rfl rfl rfl

theorem Kept.finish (h : Kept label calm given r hand r' hand') (job : Job E P) :
    Kept label calm given r hand (r'.finish job) hand' :=
  h.same rfl rfl rfl rfl

/-- A frame that is not a send takes over what is given. -/
theorem Kept.push (h : Kept label calm given r hand r' hand') {f : Frame E P}
    (hf : f.Fits r'.service) (hflight : f.flight? = none)
    (hgiven : given + f.pending label = given') :
    Kept label calm given' r hand (r'.push f) hand' := by
  have haside : (r'.push f).aside = r'.aside := by
    rw [aside, aside, flights, flights, Run.push, List.filterMap_cons_none hflight]
  obtain ⟨lost, hlost, hcalm⟩ := h.total
  refine ⟨⟨?_, ?_, h.sound.waiting⟩, ⟨lost, ?_, hcalm⟩, fun b hb => ?_⟩
  · rw [haside]
    exact h.sound.service
  · intro g hg
    rcases List.mem_cons.1 hg with rfl | hg
    · exact hf
    · exact h.sound.fits g hg
  · calc (r'.push f).total label hand' + lost
        = r'.total label hand' + lost + f.pending label := by
          rw [Run.total, haside, Run.push, List.map_cons, List.sum_cons, Run.total]
          change _ + (_ + _) + (r'.delivered.map _).sum + lost = _
          abel
      _ = r.total label hand + given' := by
          rw [hlost, ← hgiven, Multiset.add_assoc]
  · refine (h.attempted b hb).imp_right fun hle => hle.trans ?_
    rw [← hgiven]
    exact add_le_add le_rfl (Multiset.le_add_right _ _)

theorem Kept.within (h : Kept label calm given r hand r' hand') (steps : List (Step E P))
    {f : Frame E P} (hf : f.Fits r'.service) (hflight : f.flight? = none)
    (hgiven : given + f.pending label = given') :
    Kept label calm given' r hand (r'.within steps f) hand' :=
  (h.push hf hflight hgiven).push trivial rfl (Multiset.add_zero _)

/-! ### Moves of the service -/

/-- The service changes, and with it what it holds. -/
theorem Kept.withService (h : Kept label calm given r hand r' hand') {s : Service E}
    {spent : Ref → Prop} {brought : Multiset (T × String × E)} (hg : Grows spent r'.service s)
    (hspent : ∀ ref ∈ r'.aside, ¬ spent ref)
    (hqueue : s.backlog.queue = r'.service.backlog.queue) (hs : s.Sound (r'.aside + hand''))
    (hholding : ∃ lost, s.holding label (r'.aside + hand'') + lost =
      r'.service.holding label (r'.aside + hand') + brought ∧ (calm → lost = 0))
    (hgiven : given + brought = given') :
    Kept label calm given' r hand (r'.withService s) hand'' := by
  have haside : (r'.withService s).aside = r'.aside := by
    rw [aside, aside, flights, flights, Run.withService, hqueue]
  obtain ⟨lost, hlost, hcalm⟩ := h.total
  obtain ⟨lost', hlost', hcalm'⟩ := hholding
  refine ⟨⟨?_, h.sound.fits_grows hg hspent, ?_⟩, ⟨lost + lost', ?_, fun hc => ?_⟩, fun b hb => ?_⟩
  · rw [haside]
    exact hs
  · intro ref hm
    rw [Run.withService, hqueue] at hm
    obtain ⟨app, hb⟩ := h.sound.waiting ref hm
    exact ⟨app, hb.grows hg⟩
  · calc (r'.withService s).total label hand'' + (lost + lost')
        = s.holding label (r'.aside + hand'') + lost' + (r'.stack.map (Frame.pending label)).sum +
            (r'.delivered.map fun b => b.2.parcels label b.1).sum + lost := by
          rw [Run.total, haside]
          change s.holding label _ + (r'.stack.map _).sum + (r'.delivered.map _).sum + _ = _
          abel
      _ = r'.total label hand' + lost + brought := by
          rw [hlost', Run.total]
          abel
      _ = r.total label hand + given' := by
          rw [hlost, ← hgiven, Multiset.add_assoc]
  · rw [hcalm hc, hcalm' hc, Multiset.add_zero]
  · refine (h.attempted b hb).imp_right fun hle => hle.trans ?_
    rw [← hgiven]
    exact add_le_add le_rfl (Multiset.le_add_right _ _)

theorem Kept.sameReservoirs (h : Kept label calm given r hand r' hand') {s : Service E}
    (hs : r'.service.SameReservoirs s) : Kept label calm given r hand (r'.withService s) hand' :=
  h.withService (hs.grows fun _ => False) (fun _ _ => id) hs.queue
    (h.sound.service.sameReservoirs hs) ⟨0, congrArg (· + 0) (hs.holding _), fun _ => rfl⟩
    (Multiset.add_zero _)

/-- Reservoirs that cease to be live are lost. -/
theorem Kept.retires (h : Kept label calm given r hand r' hand') (hcalm : ¬ calm) {s : Service E}
    (hs : r'.service.Retires s) : Kept label calm given r hand (r'.withService s) hand' := by
  obtain ⟨lost, hlost⟩ := hs.holding label (r'.aside + hand')
  exact h.withService (Service.grows_of_pool_eq hs.pool fun _ => False) (fun _ _ => id) hs.queue
    (h.sound.service.retires hs)
    ⟨lost, hlost.trans (Multiset.add_zero _).symm, fun hc => absurd hc hcalm⟩ (Multiset.add_zero _)

theorem Kept.getOrCreate (h : Kept label calm given r hand r' hand') (kind : Kind) (app : String) :
    Kept label calm given r hand (r'.withService (r'.service.getOrCreate kind app).2) hand' := by
  have hqueue := congrArg Backlog.queue (r'.service.backlog_getOrCreate kind app)
  exact h.withService (r'.service.grows_getOrCreate (fun _ => False) kind app) (fun _ _ => id)
    hqueue (h.sound.service.getOrCreate kind app)
    ⟨0, congrArg (· + 0) (h.sound.service.holding_getOrCreate kind app), fun _ => rfl⟩
    (Multiset.add_zero _)

theorem Kept.countTry (h : Kept label calm given r hand r' hand') (ref : Ref) :
    Kept label calm given r hand (r'.withService (r'.service.countTry ref).2) hand' :=
  h.withService (r'.service.grows_countTry (fun _ => False) ref) (fun _ _ => id) rfl
    (h.sound.service.countTry ref)
    ⟨0, congrArg (· + 0) (r'.service.holding_countTry ref _), fun _ => rfl⟩ (Multiset.add_zero _)

theorem Kept.decide (h : Kept label calm given r hand r' hand') {kind : Kind} {app : String}
    {ref : Ref} (hlive : r'.service.liveRef? kind app = some ref) (random : Float) :
    Kept label calm given r hand (r'.withService (r'.service.decide ref random).2) hand' :=
  h.withService (h.sound.service.grows_decide (fun _ => False) hlive random) (fun _ _ => id) rfl
    (h.sound.service.decide ref random)
    ⟨0, congrArg (· + 0) (r'.service.holding_decide ref random _), fun _ => rfl⟩
    (Multiset.add_zero _)

/-- **An offer** takes over the event if it is accepted. -/
theorem Kept.offer (h : Kept label calm given r hand r' hand') {kind : Kind} {app : String}
    {ref : Ref} (hb : r'.service.Belongs kind app ref) {priority : Float}
    (hcalm : calm → r'.service.Takes ref priority) (event : E) :
    Kept label calm (given + accepted (r'.service.offer ref priority event).1
      (label kind.service, app, event)) r hand
      (r'.withService (r'.service.offer ref priority event).2) hand' := by
  obtain ⟨lost, hlost, hroom⟩ := h.sound.service.holding_offer label hb priority event
  exact h.withService (r'.service.grows_offer (fun _ => False) ref priority event) (fun _ _ => id)
    rfl (h.sound.service.offer ref priority event) ⟨lost, hlost, fun hc => hroom (hcalm hc)⟩ rfl

/-! ### Moves of whole reservoirs -/

/-- **A swap** takes the reservoir in hand that was live. -/
theorem Kept.swapOut (h : Kept label calm given r hand r' hand') (kind : Kind) (app : String) :
    Kept label calm given r hand (r'.withService (r'.service.swapOut kind app).2)
      (hand' + (r'.service.liveRef? kind app).toList) := by
  have hqueue := congrArg Backlog.queue (r'.service.backlog_swapOut kind app)
  have hsound := h.sound.service.swapOut kind app
  have hholding := h.sound.service.holding_swapOut label kind app
  rw [Multiset.add_assoc] at hsound hholding
  exact h.withService (r'.service.grows_swapOut (fun _ => False) kind app) (fun _ _ => id) hqueue
    hsound ⟨0, congrArg (· + 0) hholding, fun _ => rfl⟩ (Multiset.add_zero _)

/-- A reservoir in hand is in no other place. -/
theorem Sound.notMem {ref : Ref} (h : r.Sound (hand + {ref})) :
    ref ∉ r.service.live.all + (r.aside + hand) := by
  have hn := h.service.nodup
  rw [← Multiset.add_assoc r.aside, ← Multiset.add_assoc, Multiset.add_comm,
    Multiset.singleton_add] at hn
  exact (Multiset.nodup_cons.1 hn).1

theorem Sound.ne_of_mem_aside {ref ref' : Ref} (h : r.Sound (hand + {ref})) (hm : ref' ∈ r.aside) :
    ref' ≠ ref := by
  rintro rfl
  exact h.notMem (Multiset.mem_add.2 (.inr (Multiset.mem_add.2 (.inl hm))))

/-- **A merge** empties a reservoir in hand into a live one. -/
theorem Kept.mergeInto (kind : Kind) (app : String) {source target : Ref}
    (h : Kept label calm given r hand r' (hand' + {source}))
    (hsource : r'.service.Belongs kind app source)
    (htarget : r'.service.liveRef? kind app = some target)
    (hcalm : calm → (r'.service.reservoir target).size + (r'.service.reservoir source).size ≤
      (r'.service.reservoir target).capacity) :
    Kept label calm given r hand (r'.withService (r'.service.mergeInto target source)) hand' := by
  have hs := h.sound.service
  rw [← Multiset.add_assoc] at hs
  obtain ⟨lost, hlost, hroom⟩ := hs.holding_mergeInto label hsource htarget
  rw [Multiset.add_assoc] at hlost
  -- only the source is emptied, and it is not set aside
  have hnot : ∀ ref ∈ r'.aside, ref ≠ source := fun ref hm => h.sound.ne_of_mem_aside hm
  have hqueue : (r'.service.mergeInto target source).backlog.queue =
      r'.service.backlog.queue := by
    rw [Service.mergeInto]
    split <;> rfl
  exact h.withService (hs.grows_mergeInto htarget) hnot hqueue
    ((hs.mono (Multiset.le_add_right _ _)).mergeInto target source)
    ⟨lost, hlost.trans (Multiset.add_zero _).symm, fun hc => hroom (hcalm hc)⟩
    (Multiset.add_zero _)

/-- A reservoir in hand may be forgotten. Nothing is lost if it is empty. -/
theorem Kept.forget {ref : Ref} (h : Kept label calm given r hand r' (hand' + {ref}))
    (hcalm : calm → (r'.service.reservoir ref).retained = 0) :
    Kept label calm given r hand r' hand' := by
  obtain ⟨lost, hlost, hroom⟩ := h.total
  have hle : r'.aside + hand' ≤ r'.aside + (hand' + {ref}) :=
    add_le_add le_rfl (Multiset.le_add_right _ _)
  refine ⟨⟨h.sound.service.mono hle, h.sound.fits, h.sound.waiting⟩,
    ⟨lost + r'.service.stock label {ref}, ?_, fun hc => ?_⟩, h.attempted⟩
  · rw [← hlost, total_add]
    abel
  · rw [hroom hc, Service.stock_singleton, Sampling.Reservoir.parcels, hcalm hc]
    rfl

/-- A reservoir in hand may be cleared. -/
theorem Kept.clear {ref : Ref} (h : Kept label calm given r hand r' (hand' + {ref}))
    (hcalm : ¬ calm) :
    Kept label calm given r hand (r'.withService (r'.service.modify ref (·.clear))) hand' := by
  have hforgot := h.forget fun hc => absurd hc hcalm
  have hg := r'.service.grows_modify (· = ref) ref (fun r => r.shell_clear) (fun _ hr => hr)
    (.inl rfl)
  refine hforgot.withService hg (fun ref' hm => h.sound.ne_of_mem_aside hm) rfl
    (hforgot.sound.service.modify ref (fun r => r.shell_clear) fun _ => rfl)
    ⟨0, congrArg (· + 0) ?_, fun _ => rfl⟩ (Multiset.add_zero _)
  exact Service.stock_modify_of_notMem _ h.sound.notMem _

/-- **A delivery** takes a reservoir out of hand. -/
theorem Kept.deliver {ref : Ref} (h : Kept label calm given r hand r' (hand' + {ref})) {kind : Kind}
    {app : String} (hb : r'.service.Belongs kind app ref) {batch : Batch E}
    (hbatch : batch = r'.service.batch ref) :
    Kept label calm given r hand (r'.note (.settled kind batch none)) hand' := by
  have hattempted : (r'.note (.settled kind batch none)).attempted = r'.attempted :=
    attempted_note r' _
  have hdelivered :
      (r'.note (.settled kind batch none)).delivered = (kind, batch) :: r'.delivered :=
    delivered_note r' _
  obtain ⟨lost, hlost, hcalm⟩ := h.total
  have hle : r'.aside + hand' ≤ r'.aside + (hand' + {ref}) :=
    add_le_add le_rfl (Multiset.le_add_right _ _)
  have haside : (r'.note (.settled kind batch none)).aside = r'.aside := by
    rw [aside, aside, flights, flights, note_service, note_stack]
  refine ⟨⟨?_, ?_, ?_⟩, ⟨lost, ?_, hcalm⟩, ?_⟩
  · rw [note_service, haside]
    exact h.sound.service.mono hle
  · rw [note_service, note_stack]
    exact h.sound.fits
  · rw [note_service]
    exact h.sound.waiting
  · rw [← hlost, total_add, Run.total, haside, note_service, note_stack, hdelivered,
      List.map_cons, List.sum_cons, hbatch, hb.parcels_batch, Run.total]
    abel
  · rw [hattempted]
    exact h.attempted

/-- **A send** hands the batch of a reservoir in hand to the transport. -/
theorem Kept.send {ref : Ref} (h : Kept label calm given r hand r' (hand' + {ref})) {kind : Kind}
    {app : String} (hb : r'.service.Belongs kind app ref) {settle : Flight E → Frame E P}
    (hflight : ∀ flight, (settle flight).flight? = some flight)
    (hpending : ∀ flight, (settle flight).pending label = 0)
    (hfits : ∀ flight, flight.ref = ref → flight.batch = r'.service.batch ref →
      (settle flight).Fits r'.service) :
    Kept label calm given r hand (r'.send kind ref settle) hand' := by
  have hservice : (r'.send kind ref settle).service = r'.service := note_service _ _
  obtain ⟨during, outcome, hstack⟩ : ∃ during outcome, (r'.send kind ref settle).stack =
      .steps during :: settle ⟨ref, r'.service.batch ref, outcome⟩ :: r'.stack := by
    refine ⟨(r'.replyTo ref).during, (r'.replyTo ref).outcome, ?_⟩
    rw [send_eq, stack_within, note_stack]
  have hattempted : (r'.send kind ref settle).attempted =
      (kind, r'.service.batch ref) :: r'.attempted := by
    rw [send_eq]
    exact attempted_note _ _
  have hdelivered : (r'.send kind ref settle).delivered = r'.delivered := by
    rw [send_eq]
    exact delivered_note _ _
  have haside : (r'.send kind ref settle).aside = r'.aside + {ref} := by
    rw [aside, aside, flights, flights, hservice, hstack, List.filterMap_cons_none rfl,
      List.filterMap_cons_some (hflight _), List.map_cons, ← Multiset.cons_coe,
      Multiset.add_cons, Multiset.add_comm _ {ref}, Multiset.singleton_add]
  -- the reservoir is set aside from now on, by the frame that waits for the answer
  have hall : r'.aside + {ref} + hand' = r'.aside + (hand' + {ref}) := by abel
  have htotal : (r'.send kind ref settle).total label hand' = r'.total label (hand' + {ref}) := by
    rw [Run.total, Run.total, hservice, hstack, hdelivered, haside, hall, List.map_cons,
      List.map_cons, List.sum_cons, List.sum_cons, hpending]
    change _ + (0 + (0 + _)) + _ = _
    rw [Multiset.zero_add, Multiset.zero_add]
  obtain ⟨lost, hlost, hcalm⟩ := h.total
  refine ⟨⟨?_, ?_, ?_⟩, ⟨lost, ?_, hcalm⟩, ?_⟩
  · rw [hservice, haside, hall]
    exact h.sound.service
  · rw [hservice, hstack]
    intro f hf
    rcases List.mem_cons.1 hf with rfl | hf
    · trivial
    · rcases List.mem_cons.1 hf with rfl | hf
      · exact hfits _ rfl rfl
      · exact h.sound.fits f hf
  · rw [hservice]
    exact h.sound.waiting
  · rw [htotal, hlost]
  · rw [hattempted]
    intro b hb'
    rcases List.mem_cons.1 hb' with rfl | hb'
    · refine .inr (le_trans ?_ h.total_le)
      rw [hb.parcels_batch, total_add]
      exact Multiset.le_add_left _ _
    · exact h.attempted b hb'

/-! ### Moves of the backlog -/

/-- A change of the queue moves reservoirs between the backlog and the hand. -/
theorem Kept.requeued (h : Kept label calm given r hand r' hand') {backlog : Backlog Ref}
    (hall : (backlog.queue : Multiset Ref) + hand'' = r'.service.backlog.queue + hand')
    (hwaiting : ∀ ref ∈ backlog.queue, ∃ app, r'.service.Belongs .synthetic app ref) :
    Kept label calm given r hand (r'.withService { r'.service with backlog := backlog })
      hand'' := by
  have haside : (r'.withService { r'.service with backlog := backlog }).aside + hand'' =
      r'.aside + hand' := by
    rw [aside, aside]
    change (backlog.queue : Multiset Ref) + (r'.flights.map _ : List Ref) + hand'' = _
    rw [add_right_comm, hall, add_right_comm]
  have hg := r'.service.grows_backlog (fun _ => False) backlog
  refine ⟨⟨?_, h.sound.fits_grows hg fun _ _ => id, fun ref hm => ?_⟩, ?_, h.attempted⟩
  · rw [haside]
    exact h.sound.service.grows hg fun hr => ⟨hr, h.sound.service.isOpen hr⟩
  · obtain ⟨app, hb⟩ := hwaiting ref hm
    exact ⟨app, hb.grows hg⟩
  · rw [Run.total, haside]
    exact h.total

/-! ### Taking a frame off the stack -/

section Pop

variable {f : Frame E P} {rest : List (Frame E P)}

/-- The reservoir that a frame is sending. -/
def sending (f : Frame E P) : Multiset Ref := ((f.flight?.map (·.ref)).toList : List Ref)

theorem aside_of_stack (hstack : r.stack = f :: rest) :
    ({ r with stack := rest } : Run E P S).aside + sending f = r.aside := by
  rw [aside, aside, flights, flights, hstack, sending]
  cases hf : f.flight? with
  | none =>
    rw [List.filterMap_cons_none hf]
    exact Multiset.add_zero _
  | some flight =>
    rw [List.filterMap_cons_some hf, List.map_cons, ← Multiset.cons_coe, Multiset.add_cons,
      Multiset.add_comm]
    rfl

/-- The send of a frame that is taken off the stack is in hand. -/
theorem Sound.pop (h : r.Sound 0) (hstack : r.stack = f :: rest) :
    Sound { r with stack := rest } (0 + sending f) := by
  refine ⟨?_, fun g hg => h.fits g ?_, h.waiting⟩
  · have hs := h.service
    rw [← aside_of_stack hstack, Multiset.add_zero] at hs
    rw [Multiset.zero_add]
    exact hs
  · rw [hstack]
    exact List.mem_cons_of_mem f hg

theorem total_of_stack (label : String → T) (hstack : r.stack = f :: rest) :
    r.total label 0 =
      Run.total label { r with stack := rest } (0 + sending f) + f.pending label := by
  rw [Run.total, Run.total, Multiset.zero_add, aside_of_stack hstack, Multiset.add_zero, hstack,
    List.map_cons, List.sum_cons]
  change _ = _ + _ + (r.delivered.map _).sum + _
  abel

/-- What happens to a run that a frame is taken off. -/
theorem Kept.popped (hstack : r.stack = f :: rest)
    (h : Kept label calm (f.pending label + given) { r with stack := rest }
      (0 + sending f) r' hand) : Kept label calm given r 0 r' hand := by
  have htotal := total_of_stack label hstack
  obtain ⟨lost, hlost, hcalm⟩ := h.total
  rw [← Multiset.add_assoc, ← htotal] at hlost
  refine ⟨h.sound, ⟨lost, hlost, hcalm⟩, fun b hb => ?_⟩
  have hle := h.attempted b hb
  rwa [← Multiset.add_assoc, ← htotal] at hle

end Pop

end Run

end Telemetry.Events
