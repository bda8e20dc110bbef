import Mathlib.Logic.Relation
import Telemetry.Proofs.Events.Termination

/-!
# What is done on behalf of an application

Nearly everything that a run does in one go, it does for one application: the one that is recorded
for, or harvested. What can be done to the service on its behalf is said here once
(`Service.Errand`):

| errand | concerns |
|---|---|
| `askEnabled` | what has been decided about the application |
| `getOrCreate`, `swapOut`, `removeOrdinary` | which of its reservoirs are live |
| `modify` | a reservoir that belongs to it, live or not |
| `internAt` | the names that all applications share |
| `backlog` | the queue that all applications share |

`Run.Attends` relates a run to a later one that has gone on for an application: the service has
been on errands for it, and what has been put on the stack is for it again (`Run.IsFor`), where
the steps to come are of a kind that is left open. Each function of `Telemetry.Events.Run` has one
lemma. What an errand leaves alone is then a matter of seven cases.
-/

namespace Telemetry.Events

open Sampling (HasPriority Offer Reservoir)

variable {E P S : Type}

/-! ### Errands -/

namespace Service

/-- **One thing that is done to the service on behalf of an application.** -/
inductive Errand (app : String) (s : Service E) : Service E → Prop
  | askEnabled : Errand app s (s.askEnabled app).2
  | internAt (version : Nat) (name : String) : Errand app s (s.internAt version name)
  | getOrCreate (kind : Kind) : Errand app s (s.getOrCreate kind app).2
  | swapOut (kind : Kind) : Errand app s (s.swapOut kind app).2
  | modify {kind : Kind} {ref : Ref} {f : Reservoir E → Reservoir E}
      (hb : s.Belongs kind app ref) (hshell : ∀ r : Reservoir E, (f r).shell = r.shell)
      (hsealed : ∀ r : Reservoir E, (f r).isSealed = r.isSealed) : Errand app s (s.modify ref f)
  | removeOrdinary : Errand app s (s.removeOrdinary app)
  | backlog (backlog : Backlog Ref) : Errand app s { s with backlog := backlog }

/-- **One errand after the other.** -/
def Errands (app : String) : Service E → Service E → Prop := Relation.ReflTransGen (Errand app)

variable {app : String} {s s' s'' : Service E}

theorem Errands.refl (app : String) (s : Service E) : s.Errands app s := Relation.ReflTransGen.refl

theorem Errands.trans (h : s.Errands app s') (h' : s'.Errands app s'') : s.Errands app s'' :=
  Relation.ReflTransGen.trans h h'

theorem Errand.errands (h : s.Errand app s') : s.Errands app s' := .single h

/-- No errand makes a live reservoir that it should not. -/
theorem Errand.sound (h : s.Errand app s') (hs : s.Sound 0) : s'.Sound 0 := by
  cases h with
  | askEnabled => exact hs.sameReservoirs (s.sameReservoirs_askEnabled app)
  | internAt version name => exact hs.sameReservoirs (s.sameReservoirs_internAt version name)
  | getOrCreate kind => exact hs.getOrCreate kind app
  | swapOut kind => exact (hs.swapOut kind app).mono (Multiset.zero_le _)
  | modify hb hshell hsealed => exact hs.modify _ hshell hsealed
  | removeOrdinary => exact hs.retires (s.retires_removeOrdinary app)
  | backlog backlog =>
    exact hs.grows (s.grows_backlog (fun _ => False) backlog) fun hlive => ⟨hlive, hs.isOpen hlive⟩

theorem Errands.sound (h : s.Errands app s') (hs : s.Sound 0) : s'.Sound 0 := by
  induction h with
  | refl => exact hs
  | tail _ herrand ih => exact herrand.sound ih

/-- **What errands preserve**, one at a time. -/
theorem Errands.preserves {R : Service E → Service E → Prop} (h : s.Errands app s')
    (hs : s.Sound 0) (hrefl : ∀ t, R t t) (htrans : ∀ {t u v}, R t u → R u v → R t v)
    (herrand : ∀ {t u : Service E}, t.Sound 0 → t.Errand app u → R t u) : R s s' := by
  induction h with
  | refl => exact hrefl s
  | tail hbefore hlast ih => exact htrans ih (herrand (Errands.sound hbefore hs) hlast)

theorem Sound.belongs_getOrCreate (hs : s.Sound 0) (kind : Kind) (app : String) :
    (s.getOrCreate kind app).2.Belongs kind app (s.getOrCreate kind app).1 :=
  (hs.getOrCreate kind app).live (s.liveRef?_getOrCreate kind app)

theorem Belongs.errands_offer {kind : Kind} {ref : Ref} (hb : s.Belongs kind app ref)
    (priority : Float) (event : E) : s.Errands app (s.offer ref priority event).2 :=
  (Errand.modify hb (fun r => r.shell_offer priority event)
    fun r => r.isSealed_offer priority event).errands

theorem Belongs.errands_countTry {kind : Kind} {ref : Ref} (hb : s.Belongs kind app ref) :
    s.Errands app (s.countTry ref).2 :=
  (Errand.modify hb (fun r => r.shell_countTry) fun r => r.isSealed_countTry).errands

theorem Belongs.errands_mergeInto {kind kind' : Kind} {target source : Ref}
    (htarget : s.Belongs kind app target) (hsource : s.Belongs kind' app source) :
    s.Errands app (s.mergeInto target source) := by
  rw [mergeInto]
  split
  · exact .refl app s
  · have hdrained : s.Errands app (s.modify source (·.drained)) :=
      (Errand.modify hsource (fun r => r.shell_drained) fun _ => rfl).errands
    have hgrown := s.grows_modify (fun _ => True) source (fun r => r.shell_drained)
      (fun _ hr => hr) (.inl trivial)
    exact hdrained.trans (Errand.modify (htarget.grows hgrown) (fun r => r.shell_merge _)
      fun r => r.isSealed_merge _).errands

/-- An application makes the sampling decisions of its own live reservoir. -/
theorem Sound.errands_decideNext (hs : s.Sound 0) (app : String) (random : Float) :
    s.Errands app (s.decideNext app random).2 :=
  (Errand.getOrCreate .ordinary).errands.trans
    (Errand.modify (hs.belongs_getOrCreate .ordinary app) (fun r => r.shell_decide random)
      fun r => r.isSealed_decide random).errands

end Service

/-! ### Frames of an application -/

/-- The steps that a record on its way has ahead of it are all of a kind. -/
structure Job.Holds (ok : Step E P → Prop) (job : Job E P) : Prop where
  onBuild : ∀ steps, job.onBuild = some steps → ∀ s ∈ steps, ok s
  onPriority : ∀ steps ∈ job.onPriority, ∀ s ∈ steps, ok s

/-- A step on behalf of an application that has nothing to say about settings, with steps of a
kind inside it. -/
def Step.Concerns (ok : Step E P → Prop) (app : String) : Step E P → Prop
  | .recordWith app' _ onAsk onBuild onPriority => app' = app ∧ (∀ s ∈ onAsk, ok s) ∧
    (∀ s ∈ onBuild, ok s) ∧ ∀ steps ∈ onPriority, ∀ s ∈ steps, ok s
  | .recordDrawn app' _ => app' = app
  | .drawPriority app' => app' = app
  | .harvest app' => app' = app
  | .getOrCreate app' => app' = app
  | .askEnabled app' => app' = app
  | .background steps => ∀ s ∈ steps, ok s
  | _ => False

/-- A frame that goes on for an application, or with steps of a kind. -/
def Frame.IsFor (ok : Step E P → Prop) (app : String) : Frame E P → Prop
  | .steps rest => ∀ s ∈ rest, ok s
  | .asked app' job => app' = app ∧ job.Holds ok
  | .compete _ app' job => app' = app ∧ job.Holds ok
  | .built app' job _ _ => app' = app ∧ job.Holds ok
  | .offer _ app' job _ => app' = app ∧ job.Holds ok
  | .drain app' _ => app' = app
  | .settleSynthetic app' _ _ => app' = app
  | .ordinary app' => app' = app
  | .settleOrdinary app' _ => app' = app
  | .foreground _ => True

namespace Run

/-- **All that is still to be done is for an application**, or consists of steps of a kind. -/
structure IsFor (ok : Step E P → Prop) (app : String) (r : Run E P S) : Prop where
  stack : ∀ f ∈ r.stack, f.IsFor ok app
  planned : ∀ reply ∈ r.transport.planned, ∀ s ∈ reply.during, ok s

/-- **The run has gone on for an application.** -/
structure Attends (ok : Step E P → Prop) (app : String) (r r' : Run E P S) : Prop where
  errands : r.service.Errands app r'.service
  isFor : r.IsFor ok app → r'.IsFor ok app

section Attends

variable {ok : Step E P → Prop} {app : String} {r r' r'' : Run E P S}

theorem Attends.refl (ok : Step E P → Prop) (app : String) (r : Run E P S) :
    Attends ok app r r :=
  ⟨.refl app r.service, id⟩

theorem Attends.trans (h : Attends ok app r r') (h' : Attends ok app r' r'') :
    Attends ok app r r'' :=
  ⟨h.errands.trans h'.errands, fun hr => h'.isFor (h.isFor hr)⟩

/-- Only the service, the stack and the transport matter. -/
theorem Attends.same (h : Attends ok app r r') (hservice : r''.service = r'.service)
    (hstack : r''.stack = r'.stack) (htransport : r''.transport = r'.transport) :
    Attends ok app r r'' := by
  refine ⟨hservice ▸ h.errands, fun hr => ⟨?_, ?_⟩⟩
  · rw [hstack]
    exact (h.isFor hr).stack
  · rw [htransport]
    exact (h.isFor hr).planned

theorem Attends.note (h : Attends ok app r r') (n : Note E) : Attends ok app r (r'.note n) :=
  h.same (note_service r' n) (note_stack r' n) (note_transport r' n)

theorem Attends.log (h : Attends ok app r r') (severity : Log.Severity) (source message : String)
    (fields : List (String × Log.FieldValue)) :
    Attends ok app r (r'.log severity source message fields) :=
  h.note _

theorem Attends.logUnsent (h : Attends ok app r r') (app' message : String)
    (error : TransmitError) : Attends ok app r (r'.logUnsent app' message error) :=
  h.log _ _ _ _

theorem Attends.withAnswer (h : Attends ok app r r') (a : Answer) :
    Attends ok app r (r'.withAnswer a) :=
  h.same rfl rfl rfl

theorem Attends.finish (h : Attends ok app r r') (job : Job E P) :
    Attends ok app r (r'.finish job) :=
  h.same rfl rfl rfl

theorem Attends.withService (h : Attends ok app r r') {s : Service E}
    (hs : r'.service.Errands app s) : Attends ok app r (r'.withService s) :=
  ⟨h.errands.trans hs, fun hr => ⟨(h.isFor hr).stack, (h.isFor hr).planned⟩⟩

theorem Attends.push (h : Attends ok app r r') {f : Frame E P} (hf : f.IsFor ok app) :
    Attends ok app r (r'.push f) := by
  refine ⟨h.errands, fun hr => ⟨?_, (h.isFor hr).planned⟩⟩
  rintro g hg
  rcases List.mem_cons.1 hg with rfl | hg
  · exact hf
  · exact (h.isFor hr).stack g hg

theorem Attends.within (h : Attends ok app r r') {steps : List (Step E P)}
    (hsteps : ∀ s ∈ steps, ok s) {f : Frame E P} (hf : f.IsFor ok app) :
    Attends ok app r (r'.within steps f) :=
  (h.push hf).push (f := .steps steps) hsteps

/-- **A send** puts the steps inside it on the stack. -/
theorem Attends.send (h : Attends ok app r r') (kind : Kind) (ref : Ref)
    {settle : Flight E → Frame E P} (hf : ∀ flight, (settle flight).IsFor ok app) :
    Attends ok app r (r'.send kind ref settle) := by
  refine ⟨by rw [send_service]; exact h.errands, fun hr => ?_⟩
  obtain ⟨hduring, hplanned⟩ := Transport.forall_send (h.isFor hr).planned (r'.service.batch ref)
  rw [send_eq]
  refine ⟨?_, ?_⟩
  · rw [stack_within, note_stack]
    rintro g hg
    rcases List.mem_cons.1 hg with rfl | hg
    · exact hduring
    rcases List.mem_cons.1 hg with rfl | hg
    · exact hf _
    · exact (h.isFor hr).stack g hg
  · change ∀ reply ∈ (Run.note _ _).transport.planned, _
    rw [note_transport]
    exact hplanned

end Attends

section Functions

variable {ok : Step E P → Prop} {app : String}

/-! ### Recording -/

section Record

variable [HasPriority E]

theorem attends_offerTo (r : Run E P S) {kind : Kind} {ref : Ref}
    (hb : r.service.Belongs kind app ref) {job : Job E P} (hjob : job.Holds ok) :
    Attends ok app r (r.offerTo kind app job ref) := by
  have hoffered := (Attends.refl ok app r).withService
    (hb.errands_offer (HasPriority.priority job.work.event) job.work.event)
  rw [offerTo_eq]
  generalize r.service.offer ref (HasPriority.priority job.work.event) job.work.event = result
    at hoffered ⊢
  obtain ⟨decision, s⟩ := result
  cases decision with
  | accepted =>
    cases kind with
    | ordinary => exact hoffered.finish job
    | synthetic => exact (hoffered.log _ _ _ _).finish job
  | rejected _ =>
    cases kind with
    | ordinary => exact hoffered.finish job
    | synthetic => exact hoffered.push ⟨rfl, hjob⟩
  | closed _ => cases kind <;> exact hoffered.push ⟨rfl, hjob⟩

theorem attends_submit (r : Run E P S) {kind : Kind} {ref : Ref}
    (hb : r.service.Belongs kind app ref) {job : Job E P} (hjob : job.Holds ok) :
    Attends ok app r (r.submit kind app job ref) := by
  rw [submit]
  split
  next steps later honPriority =>
    have hsteps := hjob.onPriority
    rw [honPriority] at hsteps
    exact (Attends.refl ok app r).within (hsteps steps List.mem_cons_self)
      ⟨rfl, hjob.onBuild, fun turn hturn => hsteps turn (List.mem_cons_of_mem steps hturn)⟩
  next => exact r.attends_offerTo hb hjob

theorem attends_compete (r : Run E P S) (hs : r.service.Sound 0) (kind : Kind) {job : Job E P}
    (hjob : job.Holds ok) : Attends ok app r (r.compete kind app job) := by
  have hgot := (Attends.refl ok app r).withService
    (Service.Errand.getOrCreate kind).errands
  have hb := hs.belongs_getOrCreate kind app
  rw [compete]
  generalize r.service.getOrCreate kind app = result at hgot hb ⊢
  obtain ⟨ref, s⟩ := result
  have hsubmitted := hgot.trans ((r.withService s).attends_submit hb hjob)
  cases kind with
  | synthetic => exact hsubmitted
  | ordinary =>
    have hcounted := hgot.withService (Service.Belongs.errands_countTry hb)
    simp only
    split
    · split
      next steps hbuild => exact hgot.within (hjob.onBuild steps hbuild) ⟨rfl, hjob⟩
      next => exact hsubmitted
    · split
      · exact hcounted.finish job
      · exact hcounted.push ⟨rfl, hjob⟩

theorem attends_afterBuild (r : Run E P S) (hs : r.service.Sound 0) {job : Job E P}
    (hjob : job.Holds ok) (namesVersion : Nat) {goal : Option Ref}
    (hgoal : ∀ ref, goal = some ref → r.service.Belongs .ordinary app ref) :
    Attends ok app r (r.afterBuild app job namesVersion goal) := by
  have hsame := r.service.sameReservoirs_internAt namesVersion job.work.name
  have hshared := (Attends.refl ok app r).withService
    (Service.Errand.internAt namesVersion job.work.name).errands
  have hbuilt : ({ job with onBuild := none } : Job E P).Holds ok :=
    ⟨fun steps hsteps => absurd hsteps.symm (Option.some_ne_none steps), hjob.onPriority⟩
  cases goal with
  | some ref =>
    have hb := (hgoal ref rfl).grows (hsame.grows fun _ => False)
    exact hshared.trans (attends_submit _ hb hbuilt)
  | none => exact hshared.trans (attends_compete _ (hs.sameReservoirs hsame) .synthetic hbuilt)

theorem attends_afterAsk (r : Run E P S) (hs : r.service.Sound 0) {job : Job E P}
    (hjob : job.Holds ok) : Attends ok app r (r.afterAsk app job) := by
  rw [afterAsk]
  split
  · refine (Attends.refl ok app r).within ?_ ⟨rfl, hjob⟩
    cases hbuild : job.onBuild with
    | none => exact fun s hm => absurd hm List.not_mem_nil
    | some steps => exact hjob.onBuild steps hbuild
  · exact r.attends_compete hs .ordinary hjob

omit [HasPriority E] in
theorem attends_record (r : Run E P S) (work : Work E) {onAsk onBuild : List (Step E P)}
    {onPriority : List (List (Step E P))} (hask : ∀ s ∈ onAsk, ok s)
    (hbuild : ∀ s ∈ onBuild, ok s) (hpriority : ∀ steps ∈ onPriority, ∀ s ∈ steps, ok s) :
    Attends ok app r (r.record app work onAsk onBuild onPriority) := by
  have hjob : (⟨work, some onBuild, onPriority⟩ : Job E P).Holds ok := by
    refine ⟨fun steps hsteps => ?_, hpriority⟩
    obtain rfl := Option.some.inj hsteps
    exact hbuild
  have hasked := (Attends.refl ok app r).withService
    Service.Errand.askEnabled.errands
  rw [record]
  simp only
  split
  · exact (Attends.refl ok app r).finish _
  · generalize r.service.askEnabled app = result at hasked ⊢
    obtain ⟨enabled, s⟩ := result
    simp only
    split
    · exact (hasked.withService Service.Errand.removeOrdinary.errands).finish _
    · exact hasked.within hask ⟨rfl, hjob⟩

end Record

theorem attends_drawPriority (r : Run E P S) (hs : r.service.Sound 0) :
    Attends ok app r (r.drawPriority app) :=
  ⟨hs.errands_decideNext app _, fun hr => ⟨hr.stack, hr.planned⟩⟩

/-! ### Harvesting -/

theorem attends_enqueue (r : Run E P S) (ref : Ref) : Attends ok app r (r.enqueue app ref) := by
  rw [enqueue]
  split
  next backlog _ => exact (Attends.refl ok app r).withService (Service.Errand.backlog backlog).errands
  next => exact ((Attends.refl ok app r).log _ _ _ _).note _

theorem attends_harvest (r : Run E P S) : Attends ok app r (r.harvest app) := by
  have hanswered := (Attends.refl ok app r).withAnswer .none
  have hswapped := hanswered.withService (Service.Errand.swapOut .synthetic).errands
  rw [harvest]
  simp only
  split
  · exact hanswered
  · refine Attends.push ?_ rfl
    split
    · split
      · exact hswapped
      · exact hswapped.trans (attends_enqueue _ _)
    · exact hswapped

theorem attends_endDrain (r : Run E P S) : Attends ok app r (r.endDrain app) :=
  ((Attends.refl ok app r).note _).push rfl

theorem attends_drain (r : Run E P S) (budget : Nat) :
    Attends ok app r (r.drain app budget) := by
  unfold drain
  split
  next ref backlog _ =>
    exact ((Attends.refl ok app r).withService (Service.Errand.backlog backlog).errands).send .synthetic
      ref fun _ => rfl
  next => exact r.attends_endDrain

/-- A batch of whatever application goes back to the queue; no reservoir is touched. -/
theorem attends_requeue (r : Run E P S) (ref : Ref) : Attends ok app r (r.requeue ref) := by
  have hmoved := (Attends.refl ok app r).withService
    (Service.Errand.backlog (r.service.backlog.requeue ref).2).errands
  rw [requeue]
  generalize r.service.backlog.requeue ref = result at hmoved ⊢
  obtain ⟨dropped, backlog⟩ := result
  cases dropped with
  | none => exact hmoved
  | some ref' => exact (hmoved.log _ _ _ _).note _

theorem attends_settleSynthetic (r : Run E P S) (budget : Nat) (flight : Flight E) :
    Attends ok app r (r.settleSynthetic app budget flight) := by
  have hsettled := (Attends.refl ok app r).note
    (.settled .synthetic flight.batch flight.outcome)
  rw [settleSynthetic]
  split
  next => exact (hsettled.note _).push rfl
  next =>
    split
    · exact (((hsettled.logUnsent _ _ _).note _).trans (attends_requeue _ _)).trans
        (attends_endDrain _)
    · exact ((hsettled.logUnsent _ _ _).note _).trans (attends_endDrain _)

theorem attends_harvestOrdinary (r : Run E P S) : Attends ok app r (r.harvestOrdinary app) := by
  have hasked := (Attends.refl ok app r).withService
    Service.Errand.askEnabled.errands
  rw [harvestOrdinary]
  generalize r.service.askEnabled app = result at hasked ⊢
  obtain ⟨enabled, s⟩ := result
  simp only
  split
  · exact hasked.withService Service.Errand.removeOrdinary.errands
  · have hswapped := hasked.withService (Service.Errand.swapOut .ordinary).errands
    change Attends ok app r (r.withService (s.swapOut .ordinary app).2) at hswapped
    generalize s.swapOut .ordinary app = result at hswapped ⊢
    obtain ⟨swapped, s'⟩ := result
    split
    · exact hswapped
    · split
      · exact hswapped
      · exact (hswapped.note _).send .ordinary _ fun _ => rfl

/-- A batch that is retried is merged into a reservoir of its own application. -/
theorem attends_settleOrdinary (r : Run E P S) (hs : r.service.Sound 0) {flight : Flight E}
    (hb : r.service.Belongs .ordinary app flight.ref) :
    Attends ok app r (r.settleOrdinary app flight) := by
  have hsettled := (Attends.refl ok app r).note
    (.settled .ordinary flight.batch flight.outcome)
  rw [settleOrdinary]
  split
  next => exact (((hsettled.note _).note _).note _).log _ _ _ _
  next error _ =>
    split
    · have htarget := hs.belongs_getOrCreate .ordinary app
      have hsource := hb.grows (r.service.grows_getOrCreate (fun _ => False) .ordinary app)
      have hmerged := (Service.Errand.getOrCreate .ordinary).errands.trans
        (htarget.errands_mergeInto hsource)
      refine ((hsettled.logUnsent _ _ error).withService ?_).note _
      rw [logUnsent_service, note_service]
      exact hmerged
    · refine ((hsettled.logUnsent _ _ error).withService ?_).note _
      rw [logUnsent_service, note_service]
      exact (Service.Errand.modify hb (fun r => r.shell_clear) fun _ => rfl).errands

end Functions

/-! ### Steps and frames -/

section Steps

variable {ok : Step E Empty → Prop} {app : String}

/-- **A step on behalf of an application.** -/
theorem attends_start (r : Run E Empty Unit) (hs : r.service.Sound 0) {s : Step E Empty}
    (hconcerns : s.Concerns ok app) : Attends ok app r (r.start (.idle E) s) := by
  cases s with
  | recordWith app' work onAsk onBuild onPriority =>
    obtain ⟨rfl, hask, hbuild, hpriority⟩ := hconcerns
    exact r.attends_record work hask hbuild hpriority
  | recordDrawn app' make =>
    obtain rfl : app' = app := hconcerns
    have hdrawn : Attends ok app' r (r.drawPriority app') := r.attends_drawPriority hs
    have hnumbered : Attends ok app' r
        { r.drawPriority app' with numbered := r.numbered + 1 } := hdrawn.same rfl rfl rfl
    refine hnumbered.trans (attends_record _ _ ?_ ?_ ?_)
    all_goals exact fun _ hm => absurd hm List.not_mem_nil
  | drawPriority app' =>
    obtain rfl : app' = app := hconcerns
    exact r.attends_drawPriority hs
  | harvest app' =>
    obtain rfl : app' = app := hconcerns
    exact r.attends_harvest
  | getOrCreate app' =>
    obtain rfl : app' = app := hconcerns
    exact ((Attends.refl ok app' r).withService
      (Service.Errand.getOrCreate .ordinary).errands).withAnswer _
  | askEnabled app' =>
    obtain rfl : app' = app := hconcerns
    exact ((Attends.refl ok app' r).withService Service.Errand.askEnabled.errands).withAnswer _
  | background steps =>
    have hmarked : Attends ok app r { r with inBackground := true } :=
      (Attends.refl ok app r).same rfl rfl rfl
    exact hmarked.within hconcerns trivial
  | change _ => exact hconcerns.elim
  | setCapacity _ => exact hconcerns.elim
  | clear => exact hconcerns.elim
  | shutDown => exact hconcerns.elim
  | probe p => exact p.elim

variable [HasPriority E]

/-- **A frame that goes on for an application.** What it relies on says whose reservoirs it
refers to. -/
theorem attends_resume (r : Run E Empty Unit) (hs : r.service.Sound 0) {f : Frame E Empty}
    (hfits : f.Fits r.service) (hfor : f.IsFor ok app) (hsteps : ∀ rest, f ≠ .steps rest) :
    Attends ok app r (r.resume (.idle E) f) := by
  cases f with
  | steps rest => exact absurd rfl (hsteps rest)
  | asked app' job =>
    obtain ⟨rfl, hjob⟩ := hfor
    exact r.attends_afterAsk hs hjob
  | compete kind app' job =>
    obtain ⟨rfl, hjob⟩ := hfor
    exact r.attends_compete hs kind hjob
  | built app' job namesVersion goal =>
    obtain ⟨rfl, hjob⟩ := hfor
    refine r.attends_afterBuild hs hjob namesVersion ?_
    rintro ref rfl
    exact hfits
  | offer kind app' job ref =>
    obtain ⟨rfl, hjob⟩ := hfor
    exact r.attends_offerTo hfits hjob
  | drain app' budget =>
    obtain rfl : app' = app := hfor
    exact r.attends_drain budget
  | settleSynthetic app' budget flight =>
    obtain rfl : app' = app := hfor
    exact r.attends_settleSynthetic budget flight
  | ordinary app' =>
    obtain rfl : app' = app := hfor
    exact r.attends_harvestOrdinary
  | settleOrdinary app' flight =>
    obtain rfl : app' = app := hfor
    exact r.attends_settleOrdinary hs hfits.2
  | foreground wasBackground => exact (Attends.refl ok app r).same rfl rfl rfl

/-- **What a step of a run does**: it ends a list of steps, starts the next one of them, or goes on
with a frame, for whatever application that is for. -/
theorem IsProper.step_cases {r r' : Run E Empty Unit} (h : r.IsProper)
    (hstep : r.step (.idle E) = some r') : ∃ f rest, r.stack = f :: rest ∧
      (f = .steps [] ∧ r' = { r with stack := rest } ∨
        (∃ s later, f = .steps (s :: later) ∧
          r' = (push { r with stack := rest } (.steps later)).start (.idle E) s) ∨
        (∀ steps, f ≠ .steps steps) ∧ ∀ {ok : Step E Empty → Prop} {app : String},
          f.IsFor ok app → Attends ok app { r with stack := rest } r') := by
  obtain ⟨f, rest, hstack, rfl⟩ := step_eq_some_iff.1 hstep
  refine ⟨f, rest, hstack, ?_⟩
  by_cases hsteps : ∃ steps, f = .steps steps
  · obtain ⟨_ | ⟨s, later⟩, rfl⟩ := hsteps
    · exact .inl ⟨rfl, rfl⟩
    · exact .inr (.inl ⟨s, later, rfl, rfl⟩)
  · have hother : ∀ steps, f ≠ .steps steps := fun steps heq => hsteps ⟨steps, heq⟩
    refine .inr (.inr ⟨hother, fun hfor => attends_resume _ ?_ ?_ hfor hother⟩)
    · exact h.sound.service.mono (Multiset.zero_le _)
    · exact h.sound.fits f (hstack ▸ List.mem_cons_self)

end Steps

end Run

end Telemetry.Events
