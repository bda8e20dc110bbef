import Telemetry.Proofs.Events.Reached
import Telemetry.Proofs.Sampling.Offering

/-!
# Records whose callbacks call the service

While an event is built, and while it tells its priority, anything may happen to the service: the
reservoir that the event is bound for may be swapped out and sealed, so that the event has to
compete for the next one. Still the record ends, builds its event at most once, and counts one try
(`Run.record_once`).

What a record does *by itself* are the moves of its own frame: it is the last one on the stack, and
the steps of callbacks run above it (`Run.ownMoves`). Each of them either ends the record, or
leaves another frame of the record, which is bound for a reservoir of some kind
(`Frame.bound?`). `Run.Acts` says what comes of the move:

| the event | tries | what is left |
|---|---|---|
| is decided on | one, of a reservoir of the kind | nothing |
| is synthetic and rejected | one, of a synthetic reservoir | a frame bound for an ordinary one |
| waits, or finds the reservoir sealed | none | a frame bound for one of the same kind |

A sealed reservoir is left alone by all of them.
-/

namespace Telemetry.Events

open Sampling (HasPriority Offer Reservoir)

variable {E P S : Type}

/-! ### What is counted -/

/-- What an offer counts: a try, and an event. -/
def countsOf : Offer E → Nat × Nat
  | .accepted => (1, 1)
  | .rejected _ => (1, 0)
  | .closed _ => (0, 0)

theorem counts_offer (r : Reservoir E) (priority : Float) (event : E) :
    (r.offer priority event).2.tries = r.tries + (countsOf (r.offer priority event).1).1 ∧
      (r.offer priority event).2.nextSeq = r.nextSeq + (countsOf (r.offer priority event).1).2 := by
  cases hsealed : r.isSealed with
  | true =>
    rw [Reservoir.offer_of_isSealed hsealed]
    exact ⟨rfl, rfl⟩
  | false =>
    rw [Reservoir.offer_of_open hsealed]
    split
    next hwould =>
      have hkept : (r.tried.insert priority event).1 = none :=
        Reservoir.insert_fst_of_wouldAccept (r := r.tried) hwould event
      exact ⟨Reservoir.tries_insert _ _ _, Reservoir.nextSeq_insert hkept⟩
    next => exact ⟨rfl, rfl⟩

namespace Service

/-- How much more each reservoir counts afterwards. -/
def gain (count : Reservoir E → Nat) (s s' : Service E) (ref : Ref) : Int :=
  count (s'.reservoir ref) - count (s.reservoir ref)

theorem gain_trans (count : Reservoir E → Nat) (s s' s'' : Service E) :
    s.gain count s'' = s.gain count s' + s'.gain count s'' := by
  funext ref
  rw [Pi.add_apply, gain, gain, gain]
  omega

/-- One reservoir counts on. -/
theorem gain_modify {s : Service E} {ref : Ref} (hlt : ref < s.pool.size)
    {count : Reservoir E → Nat} {f : Reservoir E → Reservoir E} {a : Nat}
    (h : count (f (s.reservoir ref)) = count (s.reservoir ref) + a) :
    s.gain count (s.modify ref f) = Pi.single ref (a : Int) := by
  funext ref'
  rw [gain]
  by_cases heq : ref' = ref
  · subst heq
    rw [reservoir_modify_self hlt, h, Pi.single_eq_same]
    omega
  · rw [s.reservoir_modify_of_ne heq, Pi.single_eq_of_ne heq, Int.sub_self]

/-- **Some tries and events are added**, and sealed reservoirs are left alone. -/
structure Adds (tries events : Ref → Int) (s s' : Service E) : Prop where
  tries : s.gain Reservoir.tries s' = tries
  events : s.gain Reservoir.nextSeq s' = events
  /-- No try is taken back. -/
  le : ∀ ref, (s.reservoir ref).tries ≤ (s'.reservoir ref).tries
  frozen : ∀ ref, (s.reservoir ref).isSealed → s'.reservoir ref = s.reservoir ref

section Adds

variable {tries tries' events events' : Ref → Int} {s s' s'' : Service E}

theorem adds_of_reservoir_eq (h : ∀ ref, (s'.reservoir ref).tries = (s.reservoir ref).tries ∧
    (s'.reservoir ref).nextSeq = (s.reservoir ref).nextSeq)
    (hfrozen : ∀ ref, (s.reservoir ref).isSealed → s'.reservoir ref = s.reservoir ref) :
    Adds 0 0 s s' where
  tries := funext fun ref => by rw [gain, (h ref).1, Int.sub_self]; rfl
  events := funext fun ref => by rw [gain, (h ref).2, Int.sub_self]; rfl
  le ref := Nat.le_of_eq (h ref).1.symm
  frozen := hfrozen

theorem SameReservoirs.adds (h : s.SameReservoirs s') : Adds 0 0 s s' := by
  refine adds_of_reservoir_eq (fun ref => ?_) fun ref _ => h.reservoir ref
  rw [h.reservoir]
  exact ⟨rfl, rfl⟩

theorem Adds.trans (h : Adds tries events s s') (h' : Adds tries' events' s' s'') :
    Adds (tries + tries') (events + events') s s'' where
  tries := by rw [gain_trans _ s s' s'', h.tries, h'.tries]
  events := by rw [gain_trans _ s s' s'', h.events, h'.events]
  le ref := Nat.le_trans (h.le ref) (h'.le ref)
  frozen ref hsealed := by
    have hsame := h.frozen ref hsealed
    rw [h'.frozen ref (hsame ▸ hsealed), hsame]

/-- A new reservoir has counted nothing. -/
theorem adds_getOrCreate (s : Service E) (kind : Kind) (app : String) :
    Adds 0 0 s (s.getOrCreate kind app).2 := by
  rw [getOrCreate]
  split
  · exact (SameReservoirs.refl s).adds
  · have hsame : ∀ ref ≠ s.pool.size,
        (s.install kind app 0).2.reservoir ref = s.reservoir ref := by
      intro ref hne
      rcases Nat.lt_or_gt_of_ne hne with hlt | hgt
      · exact reservoir_install hlt kind app 0
      · rw [reservoir_of_size_le (Nat.le_of_lt hgt),
          reservoir_of_size_le (by rw [size_install]; exact hgt)]
    refine adds_of_reservoir_eq (fun ref => ?_) fun ref hsealed => hsame ref ?_
    · by_cases heq : ref = s.pool.size
      · rw [heq, reservoir_install_self, reservoir_of_size_le (Nat.le_refl _)]
        exact ⟨rfl, rfl⟩
      · rw [hsame ref heq]
        exact ⟨rfl, rfl⟩
    · rintro rfl
      rw [reservoir_of_size_le (Nat.le_refl _)] at hsealed
      exact Bool.false_ne_true hsealed

/-- **A change of one reservoir** that is not sealed. -/
theorem adds_modify {ref : Ref} (hlt : ref < s.pool.size) {f : Reservoir E → Reservoir E}
    {a b : Nat} (ha : (f (s.reservoir ref)).tries = (s.reservoir ref).tries + a)
    (hb : (f (s.reservoir ref)).nextSeq = (s.reservoir ref).nextSeq + b)
    (hfrozen : (s.reservoir ref).isSealed → f (s.reservoir ref) = s.reservoir ref) :
    Adds (Pi.single ref (a : Int)) (Pi.single ref (b : Int)) s (s.modify ref f) where
  tries := gain_modify hlt ha
  events := gain_modify hlt hb
  le ref' := by
    by_cases heq : ref' = ref
    · subst heq
      rw [reservoir_modify_self hlt, ha]
      exact Nat.le_add_right _ _
    · rw [s.reservoir_modify_of_ne heq]
  frozen ref' hsealed := by
    by_cases heq : ref' = ref
    · subst heq
      rw [reservoir_modify_self hlt]
      exact hfrozen hsealed
    · rw [s.reservoir_modify_of_ne heq]

/-- **An offer** counts a try unless the reservoir is sealed, and an event if it is accepted. -/
theorem adds_offer {ref : Ref} (hlt : ref < s.pool.size) (priority : Float) (event : E) :
    Adds (Pi.single ref ((countsOf (s.offer ref priority event).1).1 : Int))
      (Pi.single ref ((countsOf (s.offer ref priority event).1).2 : Int)) s
      (s.offer ref priority event).2 := by
  obtain ⟨htries, hevents⟩ := counts_offer (s.reservoir ref) priority event
  refine adds_modify hlt htries hevents fun hsealed => ?_
  rw [Reservoir.offer_of_isSealed hsealed]

/-- **A try** is counted unless the reservoir is sealed. -/
theorem adds_countTry {ref : Ref} (hlt : ref < s.pool.size)
    (hopen : (s.reservoir ref).isSealed = false) :
    Adds (Pi.single ref 1) (Pi.single ref 0) s (s.countTry ref).2 := by
  have htried := Reservoir.countTry_of_not_isSealed hopen
  refine adds_modify (a := 1) (b := 0) hlt ?_ ?_ fun hsealed => ?_
  · rw [htried]
    exact Reservoir.tries_tried _
  · rw [htried]
    rfl
  · rw [hopen] at hsealed
    exact absurd hsealed Bool.false_ne_true

end Adds

/-- **What a record has counted** when it is over: a try of a reservoir of its kind; and if that
was a synthetic one, which rejected the event, what it has counted as an ordinary one. -/
inductive CountsOnce (s : Service E) (app : String) : Kind → (Ref → Int) → (Ref → Int) → Prop
  | ordinary {ref : Ref} {event : Int} (h : s.Belongs .ordinary app ref)
    (hevent : event = 0 ∨ event = 1) :
    CountsOnce s app .ordinary (Pi.single ref 1) (Pi.single ref event)
  | accepted {ref : Ref} (h : s.Belongs .synthetic app ref) :
    CountsOnce s app .synthetic (Pi.single ref 1) (Pi.single ref 1)
  | rejected {ref : Ref} {tries events : Ref → Int} (h : s.Belongs .synthetic app ref)
    (hrest : CountsOnce s app .ordinary tries events) :
    CountsOnce s app .synthetic (Pi.single ref 1 + tries) events

/-- Nothing is left of a record that has been decided on. -/
theorem countsOnce_of_decided {s : Service E} {app : String} {kind : Kind} {ref : Ref} {event : Int}
    (h : s.Belongs kind app ref) (hevent : event = 1 ∨ (event = 0 ∧ kind = .ordinary)) :
    CountsOnce s app kind (Pi.single ref 1) (Pi.single ref event) := by
  rcases hevent with rfl | ⟨rfl, rfl⟩
  · cases kind with
    | ordinary => exact .ordinary h (.inr rfl)
    | synthetic => exact .accepted h
  · exact .ordinary h (.inl rfl)

end Service

/-! ### The moves of a record -/

/-- For what kind of reservoir, and of which application, a frame holds an event, and whether the
event is still to be built. -/
def Frame.bound? : Frame E P → Option (Kind × String × Bool)
  | .asked app job => some (job.work.kind, app, !job.isBuilt)
  | .compete kind app job => some (kind, app, !job.isBuilt)
  | .built app job _ (some _) => some (.ordinary, app, !job.isBuilt)
  | .built app job _ none => some (.synthetic, app, !job.isBuilt)
  | .offer kind app job _ => some (kind, app, !job.isBuilt)
  | _ => none

/-- Whether a frame comes from a call that builds an event. -/
def Frame.isBuild : Frame E P → Bool
  | .built .. => true
  | _ => false

namespace Run

open Service (Adds Belongs)

/-- **What comes of a move** for an event that is bound for a reservoir of some kind. -/
inductive Acts (app : String) (kind : Kind) (unbuilt : Bool) (r r' : Run E P S) : Prop
  /-- It has been decided on. -/
  | ends (ref : Ref) {event : Int} (h : r'.service.Belongs kind app ref)
    (hadds : Adds (Pi.single ref 1) (Pi.single ref event) r.service r'.service)
    (hevent : event = 1 ∨ (event = 0 ∧ kind = .ordinary)) (hstack : r'.stack = r.stack)
  /-- It has been rejected, and goes on as an ordinary one. -/
  | falls {ref : Ref} (f : Frame E P) (hkind : kind = .synthetic)
    (h : r'.service.Belongs kind app ref) (hadds : Adds (Pi.single ref 1) 0 r.service r'.service)
    (hf : f.bound? = some (.ordinary, app, unbuilt)) (hstack : r'.stack = f :: r.stack)
  /-- It is bound for another reservoir of the kind, once the frames above have been resumed. -/
  | goesOn (above : List (Frame E P)) (f : Frame E P) (hadds : Adds 0 0 r.service r'.service)
    (hf : f.bound? = some (kind, app, unbuilt)) (hstack : r'.stack = above ++ f :: r.stack)

section Acts

variable {app : String} {kind : Kind} {unbuilt : Bool} {r r' r'' : Run E P S} {job : Job E P}
  {ref : Ref} {aside : Multiset Ref}

/-- What adds nothing may go before. -/
theorem Acts.after (h : Acts app kind unbuilt r' r'') (hadds : Adds 0 0 r.service r'.service)
    (hstack : r'.stack = r.stack) : Acts app kind unbuilt r r'' := by
  cases h with
  | ends ref h hadds' hevent hstack' =>
    refine .ends ref h ?_ hevent (hstack'.trans hstack)
    have htrans := hadds.trans hadds'
    rwa [zero_add, zero_add] at htrans
  | falls f hkind h hadds' hf hstack' =>
    refine .falls f hkind h ?_ hf (hstack ▸ hstack')
    have htrans := hadds.trans hadds'
    rwa [zero_add, zero_add] at htrans
  | goesOn above f hadds' hf hstack' =>
    refine .goesOn above f ?_ hf (hstack ▸ hstack')
    have htrans := hadds.trans hadds'
    rwa [zero_add] at htrans

section Record

variable [HasPriority E]

/-- **An offer** decides, unless the reservoir has been sealed. -/
theorem acts_offerTo (h : r.service.Belongs kind app ref) (job : Job E P) :
    Acts app kind (!job.isBuilt) r (r.offerTo kind app job ref) := by
  have hadds := Service.adds_offer h.lt (HasPriority.priority job.work.event) job.work.event
  have hb := h.grows (r.service.grows_offer (fun _ => False) ref
    (HasPriority.priority job.work.event) job.work.event)
  rw [offerTo_eq]
  generalize r.service.offer ref (HasPriority.priority job.work.event) job.work.event = result
    at hadds hb ⊢
  obtain ⟨decision, s⟩ := result
  have hnone : Pi.single ref ((0 : Nat) : Int) = (0 : Ref → Int) := Pi.single_zero ref
  cases decision with
  | accepted =>
    cases kind with
    | ordinary => exact .ends ref hb hadds (.inl rfl) rfl
    | synthetic =>
      have hservice : ((r.withService s).log .trace serviceSource
        "added synthetic transaction event" [("app", .text app)]).service = s := note_service _ _
      exact .ends ref (hservice.symm ▸ hb) (hservice.symm ▸ hadds) (.inl rfl) (note_stack _ _)
  | rejected _ =>
    cases kind with
    | ordinary => exact .ends ref hb hadds (.inr ⟨rfl, rfl⟩) rfl
    | synthetic => exact .falls (.compete .ordinary app job) rfl hb (hnone ▸ hadds) rfl rfl
  | closed _ =>
    -- the try is left to the reservoir that has taken the place of this one
    refine .goesOn [] (.compete kind app job) ?_ rfl rfl
    change Adds (Pi.single ref ((0 : Nat) : Int)) (Pi.single ref ((0 : Nat) : Int)) _ _ at hadds
    rwa [hnone] at hadds

theorem acts_submit (h : r.service.Belongs kind app ref) (job : Job E P) :
    Acts app kind (!job.isBuilt) r (r.submit kind app job ref) := by
  rw [submit]
  split
  next steps later _ =>
    exact .goesOn [.steps steps] (.offer kind app { job with onPriority := later } ref)
      (Service.SameReservoirs.refl _).adds rfl rfl
  next => exact acts_offerTo h job

/-- **A round for a live reservoir**, which is not sealed. -/
theorem acts_compete (hs : r.service.Sound aside) (kind : Kind) (app : String) (job : Job E P) :
    Acts app kind (!job.isBuilt) r (r.compete kind app job) := by
  have hgot := hs.getOrCreate kind app
  have hlive := r.service.liveRef?_getOrCreate kind app
  have hadds := r.service.adds_getOrCreate kind app
  rw [compete]
  generalize r.service.getOrCreate kind app = result at hgot hlive hadds ⊢
  obtain ⟨ref, s⟩ := result
  have hb : s.Belongs kind app ref := hgot.live hlive
  have hsubmit : Acts app kind (!job.isBuilt) r ((r.withService s).submit kind app job ref) :=
    (acts_submit (r := r.withService s) hb job).after hadds rfl
  cases kind with
  | synthetic => exact hsubmit
  | ordinary =>
    simp only
    split
    · split
      next steps _ =>
        exact .goesOn [.steps steps] (.built app job s.namesVersion (some ref)) hadds rfl rfl
      next => exact hsubmit
    · have hopen := hgot.isOpen hlive
      have hcounted := Service.adds_countTry hb.lt hopen
      have hb' := hb.grows (s.grows_countTry (fun _ => False) ref)
      have hends : Acts app .ordinary (!job.isBuilt) (r.withService s)
          ((r.withService (s.countTry ref).2).finish job) :=
        .ends ref hb' hcounted (.inr ⟨rfl, rfl⟩) rfl
      rw [Service.countTry, Reservoir.countTry_of_not_isSealed hopen]
      exact hends.after hadds rfl

/-- **An event that has just been built** is built no more. -/
theorem acts_afterBuild (hs : r.service.Sound aside) (job : Job E P) (namesVersion : Nat)
    {goal : Option Ref} (hfits : (Frame.built app job namesVersion goal).Fits r.service) :
    Acts app (if goal.isSome then .ordinary else .synthetic) false r
      (r.afterBuild app job namesVersion goal) := by
  have hsame := r.service.sameReservoirs_internAt namesVersion job.work.name
  cases goal with
  | none =>
    exact (acts_compete (r := r.withService (r.service.internAt namesVersion job.work.name))
      (hs.sameReservoirs hsame) .synthetic app { job with onBuild := none }).after hsame.adds rfl
  | some ref =>
    have hb : r.service.Belongs .ordinary app ref := hfits
    exact (acts_submit (r := r.withService (r.service.internAt namesVersion job.work.name))
      (hb.grows (hsame.grows fun _ => False)) { job with onBuild := none }).after hsame.adds rfl

theorem acts_afterAsk (hs : r.service.Sound aside) (app : String) (job : Job E P) :
    Acts app job.work.kind (!job.isBuilt) r (r.afterAsk app job) := by
  rw [afterAsk, Work.kind]
  split
  · exact .goesOn [.steps (job.onBuild.getD [])] (.built app job r.service.namesVersion none)
      (Service.SameReservoirs.refl _).adds rfl rfl
  · exact acts_compete hs .ordinary app job

/-- **Each frame of a record acts**, and builds its event if it is still to be built. -/
theorem acts_resume {observer : Observer E P S} {f : Frame E P} (hs : r.service.Sound aside)
    (hfits : f.Fits r.service) (hproper : f.IsProper)
    (hf : f.bound? = some (kind, app, unbuilt)) :
    ∃ unbuilt', f.isBuild.toNat + unbuilt'.toNat ≤ unbuilt.toNat ∧
      Acts app kind unbuilt' r (r.resume observer f) := by
  cases f with
  | asked app' job =>
    obtain ⟨rfl, rfl, rfl⟩ : job.work.kind = kind ∧ app' = app ∧ (!job.isBuilt) = unbuilt := by
      simpa [Frame.bound?] using hf
    exact ⟨_, Nat.le_of_eq (Nat.zero_add _), acts_afterAsk hs app' job⟩
  | compete kind' app' job =>
    obtain ⟨rfl, rfl, rfl⟩ : kind' = kind ∧ app' = app ∧ (!job.isBuilt) = unbuilt := by
      simpa [Frame.bound?] using hf
    exact ⟨_, Nat.le_of_eq (Nat.zero_add _), acts_compete hs kind' app' job⟩
  | built app' job namesVersion goal =>
    obtain ⟨steps, hsteps⟩ := Option.isSome_iff_exists.1 hproper
    have hbound : (if goal.isSome then Kind.ordinary else .synthetic) = kind ∧ app' = app ∧
        true = unbuilt := by
      cases goal <;> simpa [Frame.bound?, Job.isBuilt, hsteps] using hf
    obtain ⟨rfl, rfl, rfl⟩ := hbound
    exact ⟨false, Nat.le_refl _, acts_afterBuild hs job namesVersion hfits⟩
  | offer kind' app' job ref =>
    obtain ⟨rfl, rfl, rfl⟩ : kind' = kind ∧ app' = app ∧ (!job.isBuilt) = unbuilt := by
      simpa [Frame.bound?] using hf
    exact ⟨_, Nat.le_of_eq (Nat.zero_add _), acts_offerTo hfits job⟩
  | steps rest => nomatch hf
  | drain app' budget => nomatch hf
  | settleSynthetic app' budget flight => nomatch hf
  | ordinary app' => nomatch hf
  | settleOrdinary app' flight => nomatch hf
  | foreground wasBackground => nomatch hf

end Record

end Acts

/-! ### The whole record -/

section Moves

variable {moves : List (Run E P S × Run E P S)} {m : Run E P S × Run E P S}

/-- How much more each reservoir counts after some moves, by these alone. -/
def gained (count : Reservoir E → Nat) (moves : List (Run E P S × Run E P S)) : Ref → Int :=
  (moves.map fun m => m.1.service.gain count m.2.service).sum

/-- **The moves of the last frame** among a number of steps of a run. -/
def ownMoves [HasPriority E] (observer : Observer E P S) :
    Nat → Run E P S → List (Run E P S × Run E P S)
  | 0, _ => []
  | n + 1, r =>
    match r.step observer with
    | none => []
    | some r' => (if r.stack.length = 1 then [(r, r')] else []) ++ ownMoves observer n r'

/-- Some moves build no more than so many events, take back no try, and leave sealed reservoirs
alone. -/
structure Behave (builds : Nat) (moves : List (Run E P S × Run E P S)) : Prop where
  builds : (moves.countP fun m => m.1.stack.head?.any Frame.isBuild) ≤ builds
  le : ∀ m ∈ moves, ∀ ref,
    (m.1.service.reservoir ref).tries ≤ (m.2.service.reservoir ref).tries
  frozen : ∀ m ∈ moves, ∀ ref, (m.1.service.reservoir ref).isSealed →
    m.2.service.reservoir ref = m.1.service.reservoir ref

/-- **A record counts once**: what it does by itself, in its own moves, until it leaves the service
`s`. -/
structure RecordsOnce (app : String) (kind : Kind) (builds : Nat)
    (moves : List (Run E P S × Run E P S)) (s : Service E) : Prop extends Behave builds moves where
  counts : s.CountsOnce app kind (gained Reservoir.tries moves) (gained Reservoir.nextSeq moves)

theorem gained_cons (count : Reservoir E → Nat) (m : Run E P S × Run E P S)
    (moves : List (Run E P S × Run E P S)) :
    gained count (m :: moves) = m.1.service.gain count m.2.service + gained count moves := by
  rw [gained, List.map_cons, List.sum_cons]
  rfl

theorem gained_singleton (count : Reservoir E → Nat) (m : Run E P S × Run E P S) :
    gained count [m] = m.1.service.gain count m.2.service := List.sum_singleton

theorem behave_nil (builds : Nat) : Behave builds ([] : List (Run E P S × Run E P S)) :=
  ⟨Nat.zero_le _, fun _ hm => absurd hm List.not_mem_nil, fun _ hm => absurd hm List.not_mem_nil⟩

theorem Behave.cons {builds builds' : Nat} (h : Behave builds moves) {tries events : Ref → Int}
    (hadds : Adds tries events m.1.service m.2.service) {f : Frame E P}
    (hstack : m.1.stack = [f]) (hle : f.isBuild.toNat + builds ≤ builds') :
    Behave builds' (m :: moves) where
  builds := by
    have hcount := h.builds
    rw [List.countP_cons, hstack]
    cases hbuild : f.isBuild <;> simp [hbuild] at hle ⊢ <;> omega
  le m' hm := by
    rcases List.mem_cons.1 hm with rfl | hm
    · exact hadds.le
    · exact h.le m' hm
  frozen m' hm := by
    rcases List.mem_cons.1 hm with rfl | hm
    · exact hadds.frozen
    · exact h.frozen m' hm

end Moves

section Proper

variable [HasPriority E] {r r' : Run E Empty Unit} {app : String}

theorem ownMoves_succ_of_some (hstep : r.step (.idle E) = some r') (n : Nat) :
    r.ownMoves (.idle E) (n + 1) =
      (if r.stack.length = 1 then [(r, r')] else []) ++ r'.ownMoves (.idle E) n := by
  rw [ownMoves, hstep]

theorem ownMoves_of_none (hstep : r.step (.idle E) = none) (n : Nat) :
    r.ownMoves (.idle E) n = [] := by
  cases n with
  | zero => rfl
  | succ n => rw [ownMoves, hstep]

/-- **A callback goes on** above the last frame. -/
theorem IsProper.exists_above (h : r.IsProper) (hstep : r.step (.idle E) = some r')
    {g f : Frame E Empty} {above : List (Frame E Empty)} (hstack : r.stack = g :: (above ++ [f])) :
    ∃ above', r'.stack = above' ++ [f] := by
  obtain ⟨top, rest, hstack', hresume⟩ := step_eq_some_iff.1 hstep
  obtain ⟨rfl, rfl⟩ := List.cons.inj (hstack'.symm.trans hstack)
  obtain ⟨w, -, hcontinues⟩ := h.continues hstack'
  obtain ⟨frames, hframes, -⟩ := hcontinues.pushed
  refine ⟨frames ++ above, ?_⟩
  rw [← hresume, hframes, List.append_assoc]

/-- **The last frame moves** once it is alone. -/
theorem IsProper.acts (h : r.IsProper) (hstep : r.step (.idle E) = some r') {f : Frame E Empty}
    {kind : Kind} {unbuilt : Bool} (hstack : r.stack = [f])
    (hf : f.bound? = some (kind, app, unbuilt)) :
    ∃ unbuilt', f.isBuild.toNat + unbuilt'.toNat ≤ unbuilt.toNat ∧
      Acts app kind unbuilt' { r with stack := [] } r' := by
  obtain ⟨top, rest, hstack', rfl⟩ := step_eq_some_iff.1 hstep
  obtain ⟨rfl, rfl⟩ := List.cons.inj (hstack'.symm.trans hstack)
  have hmem : top ∈ r.stack := hstack' ▸ List.mem_cons_self
  exact acts_resume h.sound.service (h.sound.fits top hmem) (h.frames top hmem) hf

omit [HasPriority E] in
/-- **A move of the last frame, and the moves after it** that end with a service `s`. -/
theorem Acts.recordsOnce {kind : Kind} {unbuilt unbuilt' : Bool} {f : Frame E Empty}
    {moves : List (Run E Empty Unit × Run E Empty Unit)} {s : Service E}
    (h : Acts app kind unbuilt' { r with stack := [] } r') (hstack : r.stack = [f])
    (hbuilds : f.isBuild.toNat + unbuilt'.toNat ≤ unbuilt.toNat)
    (hg : Service.Grows (fun _ => True) r'.service s)
    (hdone : r'.stack = [] → moves = [] ∧ s = r'.service)
    (hlater : ∀ {above f' kind'}, r'.stack = above ++ [f'] →
      f'.bound? = some (kind', app, unbuilt') → RecordsOnce app kind' unbuilt'.toNat moves s) :
    RecordsOnce app kind unbuilt.toNat ((r, r') :: moves) s := by
  cases h with
  | ends ref hb hadds hevent hnil =>
    obtain ⟨rfl, rfl⟩ := hdone hnil
    refine ⟨(behave_nil unbuilt'.toNat).cons hadds hstack hbuilds, ?_⟩
    rw [gained_singleton, gained_singleton, hadds.tries, hadds.events]
    exact Service.countsOnce_of_decided hb hevent
  | falls f' hkind hb hadds hf' hstack' =>
    have hstack'' : r'.stack = [] ++ [f'] := hstack'
    have hrest := hlater hstack'' hf'
    refine ⟨hrest.toBehave.cons hadds hstack hbuilds, ?_⟩
    subst hkind
    -- the reservoir that has rejected the event is still there at the end
    rw [gained_cons, gained_cons, hadds.tries, hadds.events, zero_add]
    exact .rejected (hb.grows hg) hrest.counts
  | goesOn above f' hadds hf' hstack' =>
    have hrest := hlater hstack' hf'
    refine ⟨hrest.toBehave.cons hadds hstack hbuilds, ?_⟩
    rw [gained_cons, gained_cons, hadds.tries, hadds.events, zero_add, zero_add]
    exact hrest.counts

/-- **The last frame of a record**, whatever runs above it, has the record end and count once. -/
theorem IsProper.recordsOnce (h : r.IsProper) {above : List (Frame E Empty)} {f : Frame E Empty}
    {kind : Kind} {unbuilt : Bool} (hstack : r.stack = above ++ [f])
    (hf : f.bound? = some (kind, app, unbuilt)) {n : Nat}
    (hends : (r.advance (.idle E) n).stack = []) :
    RecordsOnce app kind unbuilt.toNat (r.ownMoves (.idle E) n)
      (r.advance (.idle E) n).service := by
  -- the induction is on the steps to the end; what stays is that the last frame is of the record
  induction n generalizing r above f kind unbuilt with
  | zero =>
    rw [Run.advance, hstack] at hends
    exact absurd hends (List.append_ne_nil_of_right_ne_nil above (List.cons_ne_nil f []))
  | succ n ih =>
    cases hstep : r.step (.idle E) with
    | none =>
      have hnil := step_eq_none_iff.1 hstep
      rw [hstack] at hnil
      exact absurd hnil (List.append_ne_nil_of_right_ne_nil above (List.cons_ne_nil f []))
    | some r' =>
      rw [advance_succ_of_some hstep] at hends ⊢
      rw [ownMoves_succ_of_some hstep]
      cases above with
      | cons g above =>
        obtain ⟨above', hstack'⟩ := h.exists_above hstep hstack
        have hlength : r.stack.length ≠ 1 := by
          rw [hstack, List.length_append]
          simp
        rw [if_neg hlength]
        exact ih (h.step hstep) hstack' hf hends
      | nil =>
        obtain ⟨unbuilt', hbuilds, hacts⟩ := h.acts hstep hstack hf
        have hlength : r.stack.length = 1 := congrArg List.length hstack
        rw [if_pos hlength, List.singleton_append]
        refine hacts.recordsOnce hstack hbuilds (precedes_advance r' n).grows (fun hnil => ?_)
          fun hstack' hf' => ih (h.step hstep) hstack' hf' hends
        have hnone : r'.step (.idle E) = none := step_eq_none_iff.2 hnil
        exact ⟨ownMoves_of_none hnone n, congrArg Run.service (advance_of_none hnone n)⟩

omit [HasPriority E] in
/-- **A record that is let in** asks for the priority first. -/
theorem record_of_collected {r : Run E P S} (hactive : r.service.isActive)
    (hcollected : (r.service.askEnabled app).1) (work : Work E) (onAsk onBuild : List (Step E P))
    (onPriority : List (List (Step E P))) :
    r.record app work onAsk onBuild onPriority =
      (r.withService (r.service.askEnabled app).2).within onAsk
        (.asked app ⟨work, some onBuild, onPriority⟩) := by
  rw [record]
  generalize r.service.askEnabled app = result at hcollected ⊢
  obtain ⟨collected, s⟩ := result
  obtain rfl : collected = true := hcollected
  rw [hactive]
  rfl

theorem IsProper.record (h : r.IsProper) (app : String) (work : Work E) (onAsk onBuild : List (Step E Empty))
    (onPriority : List (List (Step E Empty))) :
    (r.record app work onAsk onBuild onPriority).IsProper := by
  have hkept : Kept (fun _ => ()) False _ r 0 (r.record app work onAsk onBuild onPriority) 0 :=
    h.sound.record work onAsk onBuild onPriority False.elim
  have hcontinues := continues_record r app work onAsk onBuild onPriority
  obtain ⟨frames, hframes, hproper, -⟩ := hcontinues.pushed
  refine ⟨hkept.sound, fun f hf => ?_, hcontinues.regular h.regular⟩
  rw [hframes] at hf
  exact (List.mem_append.1 hf).elim (hproper f) (h.frames f)

/-- **A record ends and counts once**, whatever its callbacks do. No live reservoir of a service
is sealed; so if the service takes the event at all, the record ends. By itself it builds the
event at most once, has one reservoir count it, or a synthetic and an ordinary one if the synthetic
one rejects it, and leaves sealed reservoirs alone. -/
theorem record_once {s : Service E} (hs : s.IsReached) (transport : Transport E Empty)
    (random : Random.Source) (app : String) (work : Work E) (onAsk onBuild : List (Step E Empty))
    (onPriority : List (List (Step E Empty))) :
    (∀ {kind app' ref}, s.liveRef? kind app' = some ref → (s.reservoir ref).isSealed = false) ∧
      (s.isActive → (s.appSettings app).enabled →
        let start := (calling s transport random).record app work onAsk onBuild onPriority
        let moves := start.ownMoves (.idle E) (start.weight + 1)
        s.SameReservoirs start.service ∧ (start.complete (.idle E)).stack = [] ∧
          RecordsOnce app work.kind 1 moves (start.complete (.idle E)).service) := by
  have hproper := isProper_calling hs transport random
  refine ⟨hproper.sound.service.isOpen, fun hactive henabled => ?_⟩
  have hcollected : (s.askEnabled app).1 = true :=
    (hs.isCandid.fst_askEnabled app).trans henabled
  have hstart := record_of_collected (r := calling s transport random) hactive hcollected work
    onAsk onBuild onPriority
  have hready := hproper.record app work onAsk onBuild onPriority
  refine ⟨?_, hready.stack_complete, ?_⟩
  · rw [hstart]
    exact s.sameReservoirs_askEnabled app
  · have hstack : ((calling s transport random).record app work onAsk onBuild onPriority).stack =
        [.steps onAsk] ++ [.asked app ⟨work, some onBuild, onPriority⟩] := by
      rw [hstart]
      rfl
    have hbound : (Frame.asked app ⟨work, some onBuild, onPriority⟩ : Frame E Empty).bound? =
        some (work.kind, app, true) := rfl
    exact hready.recordsOnce hstack hbound hready.stack_complete

open Simulation (Event) in
/-- The event of a record is built while its application is harvested: the try is counted by the
reservoir that takes the place of the one swapped out. -/
theorem record_once_while_harvested :
    let start := (calling (Service.create {}).1 {} (.ofSeed 0)).record "a" (transaction "a" 0.5) []
      [.harvest "a"] []
    let after := (start.complete (.idle Event)).service
    RecordsOnce "a" .ordinary 1 (start.ownMoves (.idle Event) (start.weight + 1)) after ∧
      after.pool.toList.map (fun r => (r.isSealed, r.tries)) =
        [(true, 0), (false, 0), (false, 1)] := by
  have hreached : (Service.create {} (E := Event)).1.IsReached := ⟨{}, {}, [], .ofSeed 0, 0, rfl⟩
  have hrecord := record_once hreached {} (.ofSeed 0) "a" (transaction "a" 0.5) [] [.harvest "a"] []
  exact ⟨(hrecord.2 (by decide +kernel) (by decide +kernel)).2.2, by decide +kernel⟩

end Proper

end Run

end Telemetry.Events
