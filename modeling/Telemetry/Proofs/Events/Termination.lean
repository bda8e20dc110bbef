import Telemetry.Proofs.Events.Precedence
import Telemetry.Proofs.Sampling.Fleet

/-!
# Every run ends

The frames of a run, the sends to come and the batches that wait all weigh something
(`Run.weight`), and `Run.complete` goes on for as many steps as the weight says. This is enough:
**each step takes something off the weight** (`Run.IsProper.weight_lt`), so the run has ended by
then (`Run.IsProper.stack_complete`).

A step takes a frame off the stack and resumes it. What resuming it may push in its place weighs
less than the frame did, which is said of each function of `Telemetry.Events.Run` by
`Run.Continues`. Two functions can push the very frame again that they come from: a record
competes anew if the reservoir is sealed. For `Run.compete` that is out of the question, as it
goes for a live reservoir; and an offer of an event that has been built weighs more than another
round. So the proof needs `Service.Sound`, and that the event of a frame that builds it has not
been built before (`Frame.IsProper`).

On the way, each function leaves the reservoirs of the pool regular, as they are in every fleet
of reservoirs.
-/

namespace Telemetry.Events

open Sampling (HasPriority Reservoir)

variable {E P S : Type}

/-! ### Regular pools -/

namespace Service

variable [HasPriority E] {s s' : Service E}

/-- All reservoirs of the pool are regular. -/
def IsRegular (s : Service E) : Prop := ∀ ref, (s.reservoir ref).IsRegular

theorem isRegular_create (settings : Config.Settings) :
    (Service.create settings : Service E × List (Note E)).1.IsRegular := fun _ =>
  Sampling.Reservoir.isRegular_empty "" "" 0 0 0

theorem IsRegular.of_pool_eq (h : s.IsRegular) (hpool : s'.pool = s.pool) : s'.IsRegular := by
  intro ref
  rw [reservoir, hpool]
  exact h ref

theorem IsRegular.modify (h : s.IsRegular) (ref : Ref) {f : Reservoir E → Reservoir E}
    (hf : (f (s.reservoir ref)).IsRegular) : (s.modify ref f).IsRegular := by
  intro ref'
  by_cases heq : ref' = ref
  · subst heq
    by_cases hlt : ref' < s.pool.size
    · rw [reservoir_modify_self hlt]
      exact hf
    · rw [reservoir_of_size_le (by rw [size_modify]; exact Nat.not_lt.1 hlt)]
      exact Sampling.Reservoir.isRegular_empty "" "" 0 0 0
  · rw [s.reservoir_modify_of_ne heq]
    exact h ref'

theorem IsRegular.install (h : s.IsRegular) (kind : Kind) (app : String) (decidedLast : Nat) :
    (s.install kind app decidedLast).2.IsRegular := by
  intro ref
  rcases Nat.lt_trichotomy ref s.pool.size with hlt | rfl | hgt
  · rw [reservoir_install hlt]
    exact h ref
  · rw [reservoir_install_self]
    exact Sampling.Reservoir.isRegular_empty _ _ _ _ _
  · rw [reservoir_of_size_le (by rw [size_install]; exact hgt)]
    exact Sampling.Reservoir.isRegular_empty "" "" 0 0 0

theorem IsRegular.getOrCreate (h : s.IsRegular) (kind : Kind) (app : String) :
    (s.getOrCreate kind app).2.IsRegular := by
  rw [Service.getOrCreate]
  split
  · exact h
  · exact h.install kind app 0

theorem IsRegular.swapOut (h : s.IsRegular) (kind : Kind) (app : String) :
    (s.swapOut kind app).2.IsRegular := by
  have hnew := h.install kind app (s.liveTries kind app)
  cases hlive : s.liveRef? kind app with
  | none =>
    rw [swapOut_snd_of_none hlive]
    exact hnew
  | some ref =>
    rw [swapOut_snd_of_some hlive]
    exact hnew.modify ref ((hnew ref).perform .close)

theorem IsRegular.mergeInto (h : s.IsRegular) (target source : Ref) :
    (s.mergeInto target source).IsRegular := by
  rw [Service.mergeInto]
  split
  · exact h
  next hne =>
    have hspent := h.modify source (h source).drained
    refine hspent.modify target ?_
    rw [s.reservoir_modify_of_ne hne]
    exact (h target).merge (h source)

theorem IsRegular.offer (h : s.IsRegular) (ref : Ref) (event : E) :
    (s.offer ref (HasPriority.priority event) event).2.IsRegular :=
  h.modify ref ((h ref).offer event)

theorem IsRegular.countTry (h : s.IsRegular) (ref : Ref) : (s.countTry ref).2.IsRegular :=
  h.modify ref (h ref).countTry

theorem IsRegular.decide (h : s.IsRegular) (ref : Ref) (random : Float) :
    (s.decide ref random).2.IsRegular :=
  h.modify ref ((h ref).decide random)

end Service

/-! ### What is pushed in one go -/

/-- A frame that is about to build the event of a record, or to ask for its priority before: the
event has not been built. -/
def Frame.IsProper : Frame E P → Prop
  | .asked _ job => job.onBuild.isSome
  | .built _ job _ _ => job.onBuild.isSome
  | _ => True

namespace Run

/-- The weight of some frames. -/
def stackWeight (frames : List (Frame E P)) : Nat :=
  frames.foldr (fun frame n => frameWeight frame + n) 0

/-- The work ahead that is not in frames. -/
def load (r : Run E P S) : Nat := r.transport.weight + batchWeight * r.service.backlog.size

theorem weight_eq (r : Run E P S) : r.weight = stackWeight r.stack + r.load :=
  Nat.add_assoc _ _ _

theorem stackWeight_cons (f : Frame E P) (frames : List (Frame E P)) :
    stackWeight (f :: frames) = frameWeight f + stackWeight frames := rfl

theorem stackWeight_append (frames frames' : List (Frame E P)) :
    stackWeight (frames ++ frames') = stackWeight frames + stackWeight frames' := by
  induction frames with
  | nil => exact (Nat.zero_add _).symm
  | cons f rest ih => rw [List.cons_append, stackWeight_cons, stackWeight_cons, ih, Nat.add_assoc]

section Continues

variable [HasPriority E]

/-- **What a function of a run does in one go**: it pushes some frames, and adds at most `w` to
the work ahead. -/
structure Continues (w : Nat) (r r' : Run E P S) : Prop where
  pushed : ∃ frames, r'.stack = frames ++ r.stack ∧ (∀ f ∈ frames, f.IsProper) ∧
    stackWeight frames + r'.load ≤ w + r.load
  regular : r.service.IsRegular → r'.service.IsRegular

variable {w w' : Nat} {r r' r'' : Run E P S}

/-- Only the stack, the transport and the service matter. -/
theorem Continues.same (h : Continues w r r') (hstack : r''.stack = r'.stack)
    (htransport : r''.transport = r'.transport)
    (hsize : r''.service.backlog.size ≤ r'.service.backlog.size)
    (hregular : r'.service.IsRegular → r''.service.IsRegular) : Continues w r r'' := by
  obtain ⟨frames, hframes, hproper, hweight⟩ := h.pushed
  have hload : r''.load ≤ r'.load := by
    rw [load, load, htransport]
    exact Nat.add_le_add_left (Nat.mul_le_mul_left _ hsize) _
  exact ⟨⟨frames, hstack.trans hframes, hproper, by omega⟩, fun hr => hregular (h.regular hr)⟩

theorem Continues.refl (r : Run E P S) : Continues 0 r r :=
  ⟨⟨[], rfl, fun _ hf => absurd hf List.not_mem_nil, Nat.le_refl _⟩, id⟩

theorem Continues.mono (h : Continues w r r') (hle : w ≤ w') : Continues w' r r' := by
  obtain ⟨frames, hframes, hproper, hweight⟩ := h.pushed
  exact ⟨⟨frames, hframes, hproper, by omega⟩, h.regular⟩

theorem Continues.trans (h : Continues w r r') (h' : Continues w' r' r'') :
    Continues (w + w') r r'' := by
  obtain ⟨frames, hframes, hproper, hweight⟩ := h.pushed
  obtain ⟨frames', hframes', hproper', hweight'⟩ := h'.pushed
  refine ⟨⟨frames' ++ frames, ?_, fun f hf => ?_, ?_⟩, fun hr => h'.regular (h.regular hr)⟩
  · rw [hframes', hframes, List.append_assoc]
  · rcases List.mem_append.1 hf with hf | hf
    · exact hproper' f hf
    · exact hproper f hf
  · rw [stackWeight_append]
    omega

/-- A move that adds nothing, and then another. -/
theorem Continues.andThen (h : Continues 0 r r') (h' : Continues w r' r'') :
    Continues w r r'' :=
  (h.trans h').mono (Nat.le_of_eq (Nat.zero_add w))

theorem Continues.note (h : Continues w r r') (n : Note E) : Continues w r (r'.note n) :=
  h.same (note_stack r' n) (note_transport r' n) (by rw [note_service]) (by rw [note_service]; exact id)

theorem Continues.withService (h : Continues w r r') {s : Service E}
    (hsize : s.backlog.size ≤ r'.service.backlog.size)
    (hregular : r'.service.IsRegular → s.IsRegular) : Continues w r (r'.withService s) :=
  h.same rfl rfl hsize hregular

/-- The pool and the backlog are as before. -/
theorem Continues.withPool (h : Continues w r r') {s : Service E}
    (hpool : s.pool = r'.service.pool) (hqueue : s.backlog.queue = r'.service.backlog.queue) :
    Continues w r (r'.withService s) :=
  h.withService (Nat.le_of_eq (congrArg List.length hqueue)) fun hr => hr.of_pool_eq hpool

theorem Continues.absorb (h : Continues w r r') {result : Service E × List (Note E)}
    (hpool : result.1.pool = r'.service.pool)
    (hqueue : result.1.backlog.queue = r'.service.backlog.queue) :
    Continues w r (r'.absorb result) := by
  refine (h.withPool hpool hqueue).same ?_ ?_ ?_ ?_
  · exact absorb_stack r' result
  · exact absorb_transport r' result
  · rw [absorb_service]
    exact Nat.le_refl _
  · rw [absorb_service]
    exact id

theorem Continues.push (h : Continues w r r') {f : Frame E P} (hf : f.IsProper) :
    Continues (w + frameWeight f) r (r'.push f) := by
  refine h.trans ⟨⟨[f], rfl, fun g hg => ?_, ?_⟩, id⟩
  · rw [List.mem_singleton.1 hg]
    exact hf
  · rw [stackWeight_cons]
    exact Nat.le_refl _

theorem Continues.within (h : Continues w r r') (steps : List (Step E P)) {f : Frame E P}
    (hf : f.IsProper) :
    Continues (w + frameWeight f + (1 + Step.totalWeight steps)) r (r'.within steps f) :=
  (h.push hf).push (f := .steps steps) trivial

omit [HasPriority E] in
/-- The steps inside the next send weigh on the transport before it. -/
theorem weight_send (t : Transport E P) (batch : Batch E) :
    Step.totalWeight (t.send batch).1.during + (t.send batch).2.weight ≤ t.weight := by
  obtain ⟨_ | ⟨reply, rest⟩, habit⟩ := t
  · exact Nat.zero_le _
  · change Step.totalWeight reply.during + Transport.weight ⟨rest, habit⟩ ≤
      Step.totalWeight reply.during + 1 + Transport.weight ⟨rest, habit⟩
    omega

/-- **A send** weighs little more than the frame that waits for its outcome. -/
theorem Continues.send (h : Continues w r r') (kind : Kind) (ref : Ref)
    (settle : Flight E → Frame E P) (hf : ∀ flight, (settle flight).IsProper) {k : Nat}
    (hk : ∀ flight, frameWeight (settle flight) = k) :
    Continues (w + (k + 1)) r (r'.send kind ref settle) := by
  refine h.trans ⟨⟨[.steps (r'.replyTo ref).during,
    settle ⟨ref, r'.service.batch ref, (r'.replyTo ref).outcome⟩], ?_, fun f hmem => ?_, ?_⟩, ?_⟩
  · rw [send_eq, stack_within, note_stack]
    rfl
  · rcases List.mem_cons.1 hmem with rfl | hmem
    · trivial
    · rw [List.mem_singleton.1 hmem]
      exact hf _
  -- what runs inside the send is taken off the transport
  · have hnext := weight_send r'.transport (r'.service.batch ref)
    rw [stackWeight_cons, stackWeight_cons, hk, load, load, send_service]
    change 1 + Step.totalWeight (r'.replyTo ref).during + (k + 0) + (_ + _) ≤ _
    rw [show (r'.send kind ref settle).transport = r'.transportAfter ref from note_transport _ _,
      replyTo, transportAfter]
    omega
  · rw [send_service]
    exact id

theorem Continues.withAnswer (h : Continues w r r') (a : Answer) :
    Continues w r (r'.withAnswer a) :=
  h.same rfl rfl (Nat.le_refl _) id

theorem Continues.finish (h : Continues w r r') (job : Job E P) : Continues w r (r'.finish job) :=
  h.withAnswer _

/-! ### Recording -/

variable {app : String} {job : Job E P} {aside : Multiset Ref}

omit [HasPriority E] in
theorem jobWeight_of_some {steps : List (Step E P)} (h : job.onBuild = some steps) :
    jobWeight job = 6 + Step.totalWeight steps + Step.turnsWeight job.onPriority := by
  rw [jobWeight, h]
  rfl

omit [HasPriority E] in
theorem jobWeight_built (job : Job E P) :
    jobWeight { job with onBuild := none } = Step.turnsWeight job.onPriority :=
  Nat.zero_add _

omit [HasPriority E] in
/-- A turn of steps is part of the weight of a job. -/
theorem jobWeight_of_turns {steps : List (Step E P)} {later : List (List (Step E P))}
    (h : job.onPriority = steps :: later) :
    jobWeight job = 4 + Step.totalWeight steps + jobWeight { job with onPriority := later } := by
  rw [jobWeight, jobWeight, h, Step.turnsWeight]
  exact Nat.add_left_comm _ _ _

/-- An offer may lead to another round, for a reservoir that has been sealed or, for a synthetic
event, that of the ordinary events. -/
theorem continues_offerTo (r : Run E P S) {kind : Kind} {ref : Ref}
    (hsealed : (r.service.reservoir ref).isSealed → frameWeight (.compete kind app job) ≤ w)
    (hordinary : kind = .synthetic → frameWeight (.compete .ordinary app job) ≤ w) :
    Continues w r (r.offerTo kind app job ref) := by
  have hoffer : Continues 0 r (r.withService
      (r.service.offer ref (HasPriority.priority job.work.event) job.work.event).2) :=
    (Continues.refl r).withService (Nat.le_refl _) fun hr => hr.offer ref job.work.event
  have hclosed : ∀ event, (r.service.offer ref (HasPriority.priority job.work.event)
      job.work.event).1 = .closed event → (r.service.reservoir ref).isSealed := by
    intro event hclosed
    by_contra hopen
    exact Sampling.Reservoir.offer_fst_ne_closed (eq_false_of_ne_true hopen) _ _ _ hclosed
  rw [offerTo_eq]
  generalize r.service.offer ref (HasPriority.priority job.work.event) job.work.event = result
    at hoffer hclosed ⊢
  obtain ⟨decision, s⟩ := result
  have hround : ∀ {kind' : Kind}, frameWeight (.compete kind' app job) ≤ w →
      Continues w r ((r.withService s).push (.compete kind' app job)) := fun hle =>
    (hoffer.push (f := .compete _ app job) trivial).mono (by omega)
  cases decision with
  | accepted =>
    cases kind with
    | ordinary => exact (hoffer.finish job).mono (Nat.zero_le w)
    | synthetic => exact ((hoffer.note _).finish job).mono (Nat.zero_le w)
  | rejected _ =>
    cases kind with
    | ordinary => exact (hoffer.finish job).mono (Nat.zero_le w)
    | synthetic => exact hround (hordinary rfl)
  | closed _ => exact hround (hsealed (hclosed _ rfl))

theorem continues_submit (r : Run E P S) {kind : Kind} {ref : Ref}
    (hsealed : (r.service.reservoir ref).isSealed → frameWeight (.compete kind app job) ≤ w)
    (hordinary : kind = .synthetic → frameWeight (.compete .ordinary app job) ≤ w)
    (hturn : 1 + jobWeight job ≤ w) : Continues w r (r.submit kind app job ref) := by
  rw [submit]
  split
  next steps later hturns =>
    refine ((Continues.refl r).within steps
      (f := .offer kind app { job with onPriority := later } ref) trivial).mono ?_
    rw [jobWeight_of_turns hturns] at hturn
    rw [frameWeight]
    omega
  next => exact continues_offerTo r hsealed hordinary

/-- **A round for a live reservoir** is not followed by another like it. -/
theorem continues_compete (hs : r.service.Sound aside) (kind : Kind) (app : String)
    (job : Job E P) (hw : frameWeight (.compete kind app job) ≤ w + 1) :
    Continues w r (r.compete kind app job) := by
  have hgot : Continues 0 r (r.withService (r.service.getOrCreate kind app).2) :=
    (Continues.refl r).withService
      (Nat.le_of_eq (congrArg Backlog.size (r.service.backlog_getOrCreate kind app)))
      fun hr => hr.getOrCreate kind app
  have hopen := (hs.getOrCreate kind app).isOpen (r.service.liveRef?_getOrCreate kind app)
  rw [compete]
  generalize r.service.getOrCreate kind app = result at hgot hopen ⊢
  obtain ⟨ref, s⟩ := result
  simp only at hgot hopen ⊢
  -- as the reservoir is live, an offer is not turned down for being late
  have hsubmit : ∀ {job' : Job E P}, 1 + jobWeight job' ≤ w →
      (kind = .synthetic → frameWeight (.compete .ordinary app job' : Frame E P) ≤ w) →
      Continues w r ((r.withService s).submit kind app job' ref) := by
    intro job' hturn hordinary
    refine hgot.andThen (continues_submit _ (fun hsealed => ?_) hordinary hturn)
    rw [show ((r.withService s).service.reservoir ref).isSealed = false from hopen] at hsealed
    exact absurd hsealed Bool.false_ne_true
  cases kind with
  | synthetic =>
    rw [frameWeight] at hw
    refine hsubmit (by omega) fun _ => ?_
    rw [frameWeight]
    omega
  | ordinary =>
    rw [frameWeight] at hw
    simp only
    split
    · split
      next steps hbuild =>
        -- the event is built but once, which pays for the frame and for the offer after it
        refine (hgot.within steps (f := .built app job s.namesVersion (some ref)) ?_).mono ?_
        · rw [Frame.IsProper, hbuild]
          rfl
        · rw [jobWeight_of_some hbuild] at hw
          rw [frameWeight, jobWeight_built]
          omega
      next => exact hsubmit (by omega) fun hkind => Kind.noConfusion hkind
    · rw [Service.countTry, Sampling.Reservoir.countTry_of_not_isSealed hopen]
      have hcounted : Continues 0 r ((r.withService s).withService (s.countTry ref).2) :=
        hgot.withService (Nat.le_refl _) fun hr => hr.countTry ref
      exact (hcounted.finish job).mono (Nat.zero_le w)

theorem continues_afterBuild (hs : r.service.Sound aside) (app : String) (job : Job E P)
    (namesVersion : Nat) (goal : Option Ref) :
    Continues (4 + jobWeight { job with onBuild := none }) r
      (r.afterBuild app job namesVersion goal) := by
  have hsame := r.service.sameReservoirs_internAt namesVersion job.work.name
  have hshared : Continues 0 r
      (r.withService (r.service.internAt namesVersion job.work.name)) :=
    (Continues.refl r).withPool hsame.pool hsame.queue
  cases goal with
  | none =>
    refine hshared.andThen (continues_compete (hs.sameReservoirs hsame) .synthetic app
      { job with onBuild := none } ?_)
    rw [frameWeight]
    omega
  | some ref =>
    refine hshared.andThen (continues_submit _ (fun _ => ?_) (fun h => nomatch h) (by omega))
    rw [frameWeight]
    omega

theorem continues_afterAsk (hs : r.service.Sound aside) (app : String) {job : Job E P}
    (hjob : job.onBuild.isSome) : Continues (2 + jobWeight job) r (r.afterAsk app job) := by
  rw [afterAsk]
  split
  · obtain ⟨steps, hbuild⟩ := Option.isSome_iff_exists.1 hjob
    refine ((Continues.refl r).within _ (f := .built app job _ none) hjob).mono ?_
    rw [frameWeight, jobWeight_built, jobWeight_of_some hbuild, hbuild, Option.getD_some]
    omega
  · refine continues_compete hs .ordinary app job ?_
    rw [frameWeight]
    omega

theorem continues_record (r : Run E P S) (app : String) (work : Work E)
    (onAsk onBuild : List (Step E P)) (onPriority : List (List (Step E P))) :
    Continues (10 + Step.totalWeight onAsk + Step.totalWeight onBuild +
      Step.turnsWeight onPriority) r (r.record app work onAsk onBuild onPriority) := by
  have hasked : Continues 0 r (r.withService (r.service.askEnabled app).2) :=
    (Continues.refl r).withPool (r.service.sameReservoirs_askEnabled app).pool
      (r.service.sameReservoirs_askEnabled app).queue
  rw [record]
  generalize r.service.askEnabled app = result at hasked ⊢
  obtain ⟨enabled, s⟩ := result
  simp only at hasked ⊢
  split
  · exact ((Continues.refl r).finish _).mono (Nat.zero_le _)
  · split
    · have hretires := s.retires_removeOrdinary app
      exact ((hasked.withPool hretires.pool hretires.queue).finish _).mono (Nat.zero_le _)
    · refine (hasked.within onAsk (f := .asked app ⟨work, some onBuild, onPriority⟩) rfl).mono ?_
      have hjob : jobWeight (⟨work, some onBuild, onPriority⟩ : Job E P) =
          6 + Step.totalWeight onBuild + Step.turnsWeight onPriority := jobWeight_of_some rfl
      rw [frameWeight, hjob]
      omega

theorem continues_drawPriority (r : Run E P S) (app : String) :
    Continues 0 r (r.drawPriority app) :=
  (Continues.refl r).same rfl rfl
    (Nat.le_of_eq (congrArg Backlog.size (r.service.backlog_getOrCreate .ordinary app)))
    fun hr => (hr.getOrCreate .ordinary app).decide _ _

/-! ### Harvesting -/

/-- **A batch that joins the backlog** adds its weight. -/
theorem Continues.withBacklog (h : Continues w r r') {backlog : Backlog Ref}
    (hsize : backlog.size ≤ r'.service.backlog.size + 1) :
    Continues (w + batchWeight) r (r'.withService { r'.service with backlog := backlog }) := by
  refine h.trans ⟨⟨[], rfl, fun _ hf => absurd hf List.not_mem_nil, ?_⟩,
    fun hr => hr.of_pool_eq rfl⟩
  have hle : batchWeight * backlog.size ≤ batchWeight * r'.service.backlog.size + batchWeight :=
    Nat.mul_le_mul_left batchWeight hsize
  change 0 + (r'.transport.weight + batchWeight * backlog.size) ≤
    batchWeight + (r'.transport.weight + batchWeight * r'.service.backlog.size)
  omega

/-- **A batch that leaves the backlog** makes up for its weight. -/
theorem Continues.ofPopped {backlog : Backlog Ref}
    (h : Continues (w + batchWeight) (r.withService { r.service with backlog := backlog }) r')
    (hsize : backlog.size + 1 = r.service.backlog.size) : Continues w r r' := by
  obtain ⟨frames, hframes, hproper, hweight⟩ := h.pushed
  refine ⟨⟨frames, hframes, hproper, ?_⟩, fun hr => h.regular (hr.of_pool_eq rfl)⟩
  have hload : (r.withService { r.service with backlog := backlog }).load + batchWeight =
      r.load := by
    rw [load, load, ← hsize, Nat.mul_succ, Nat.add_assoc]
    rfl
  omega

theorem continues_enqueue (r : Run E P S) (app : String) (ref : Ref) :
    Continues batchWeight r (r.enqueue app ref) := by
  unfold enqueue Backlog.push
  split
  next backlog hpush =>
    split at hpush
    · nomatch hpush
    · obtain rfl := Except.ok.inj hpush
      refine ((Continues.refl r).withBacklog ?_).mono (Nat.le_of_eq (Nat.zero_add _))
      exact Nat.le_of_eq List.length_append
  next => exact (((Continues.refl r).note _).note _).mono (Nat.zero_le _)

theorem continues_harvest (r : Run E P S) (app : String) :
    Continues (batchWeight + 6) r (r.harvest app) := by
  have hstart : Continues 0 r (r.withAnswer .none) := (Continues.refl r).withAnswer .none
  have hswapped := hstart.withService
    (Nat.le_of_eq (congrArg Backlog.size (r.service.backlog_swapOut .synthetic app)))
    fun hr => hr.swapOut .synthetic app
  rw [harvest]
  simp only
  split
  · exact hstart.mono (Nat.zero_le _)
  · refine Continues.push (f := .drain app _) ?_ trivial
    split
    · split
      · exact hswapped.mono (Nat.zero_le _)
      · exact hswapped.andThen (continues_enqueue _ app _)
    · exact hswapped.mono (Nat.zero_le _)

theorem Continues.endDrain (h : Continues w r r') (app : String) :
    Continues (w + 3) r (r'.endDrain app) :=
  (h.note _).push (f := .ordinary app) trivial

theorem continues_drain (r : Run E P S) (app : String) (budget : Nat) :
    Continues 5 r (r.drain app budget) := by
  unfold drain Backlog.pop?
  cases budget with
  | zero => exact ((Continues.refl r).endDrain app).mono (by decide)
  | succ budget =>
    cases hqueue : r.service.backlog.queue with
    | nil => exact ((Continues.refl r).endDrain app).mono (by decide)
    | cons ref rest =>
      have hsent := (Continues.refl (r.withService
        { r.service with backlog := { r.service.backlog with queue := rest } })).send .synthetic ref
        (.settleSynthetic app budget) (fun _ => trivial) fun _ => rfl
      refine (hsent.mono (Nat.le_of_eq rfl)).ofPopped ?_
      rw [Backlog.size, Backlog.size, hqueue, List.length_cons]

theorem continues_requeue (r : Run E P S) (ref : Ref) : Continues batchWeight r (r.requeue ref) := by
  have hsize : (r.service.backlog.requeue ref).2.size ≤ r.service.backlog.size + 1 := by
    rw [Backlog.requeue]
    split
    · change (List.dropLast _).length ≤ _
      rw [List.length_dropLast]
      exact Nat.sub_le _ _
    · exact Nat.le_refl _
  have hmoved := ((Continues.refl r).withBacklog hsize).mono (Nat.le_of_eq (Nat.zero_add _))
  rw [requeue]
  generalize r.service.backlog.requeue ref = result at hmoved ⊢
  obtain ⟨dropped, backlog⟩ := result
  cases dropped with
  | none => exact hmoved
  | some ref' => exact (hmoved.note _).note _

theorem continues_settleSynthetic (r : Run E P S) (app : String) (budget : Nat)
    (flight : Flight E) :
    Continues (batchWeight + 3) r (r.settleSynthetic app budget flight) := by
  have hnoted := fun outcome =>
    (Continues.refl r).note (.settled .synthetic flight.batch outcome)
  rw [settleSynthetic]
  simp only
  cases flight.outcome with
  | none =>
    refine (((hnoted none).note _).push (f := .drain app budget) trivial).mono ?_
    rw [frameWeight]
    decide
  | some error =>
    have hlogged := fun record : Log.Record => (hnoted (some error)).note (.record record)
    simp only
    split
    · exact (((hlogged _).note _).andThen (continues_requeue _ flight.ref)).endDrain app
    · exact (((hlogged _).note _).endDrain app).mono (by decide)

theorem continues_harvestOrdinary (r : Run E P S) (app : String) :
    Continues 2 r (r.harvestOrdinary app) := by
  have hasked : Continues 0 r (r.withService (r.service.askEnabled app).2) :=
    (Continues.refl r).withPool (r.service.sameReservoirs_askEnabled app).pool
      (r.service.sameReservoirs_askEnabled app).queue
  rw [harvestOrdinary]
  generalize r.service.askEnabled app = result at hasked ⊢
  obtain ⟨enabled, s⟩ := result
  simp only at hasked ⊢
  split
  · have hretires := s.retires_removeOrdinary app
    exact (hasked.withPool hretires.pool hretires.queue).mono (Nat.zero_le _)
  · have hswapped : Continues 0 r (r.withService (s.swapOut .ordinary app).2) :=
      hasked.withService (Nat.le_of_eq (congrArg Backlog.size (s.backlog_swapOut .ordinary app)))
        fun hr => hr.swapOut .ordinary app
    generalize s.swapOut .ordinary app = result at hswapped ⊢
    obtain ⟨swapped, s'⟩ := result
    split
    · exact hswapped.mono (Nat.zero_le _)
    · split
      · exact hswapped.mono (Nat.zero_le _)
      · exact (hswapped.note _).send .ordinary _ (.settleOrdinary app) (fun _ => trivial)
          fun _ => rfl

theorem continues_settleOrdinary (r : Run E P S) (app : String) (flight : Flight E) :
    Continues 0 r (r.settleOrdinary app flight) := by
  rw [settleOrdinary]
  simp only
  cases flight.outcome with
  | none => exact (((((Continues.refl r).note _).note _).note _).note _).note _
  | some error =>
    have hnoted := (Continues.refl r).note (.settled .ordinary flight.batch (some error))
    simp only [note_service, logUnsent_service]
    split
    · refine Continues.note (Continues.withService (hnoted.note (.record _)) ?_ ?_) _
      · rw [note_service, note_service, Service.backlog_mergeInto, r.service.backlog_getOrCreate]
      · rw [note_service, note_service]
        exact fun hr => (hr.getOrCreate .ordinary app).mergeInto _ _
    · refine Continues.note (Continues.withService (hnoted.note (.record _)) ?_ ?_) _
      · rw [note_service, note_service]
        exact Nat.le_refl _
      · rw [note_service, note_service]
        exact fun hr => hr.modify _ ((hr flight.ref).perform .clear)

/-! ### Steps -/

omit [HasPriority E] in
theorem weight_pos (s : Step E P) : 0 < s.weight := by
  cases s <;> simp only [Step.weight, harvestWeight] <;> omega

theorem continues_start (r : Run E Empty Unit) (s : Step E Empty) :
    ∃ w, w < s.weight ∧ Continues w r (r.start (.idle E) s) := by
  cases s with
  | recordWith app work onAsk onBuild onPriority =>
    refine ⟨_, ?_, r.continues_record app work onAsk onBuild onPriority⟩
    rw [Step.weight]
    omega
  | recordDrawn app make =>
    have hdrawn : Continues 0 r { r.drawPriority app with numbered := r.numbered + 1 } :=
      (r.continues_drawPriority app).same rfl rfl (Nat.le_refl _) id
    refine ⟨_, ?_, hdrawn.andThen (continues_record _ app _ [] [] [])⟩
    rw [Step.weight, Step.totalWeight, Step.turnsWeight]
    decide
  | drawPriority app => exact ⟨0, weight_pos _, r.continues_drawPriority app⟩
  | harvest app => exact ⟨_, by rw [Step.weight]; decide, r.continues_harvest app⟩
  | change c =>
    have hretires := r.service.retires_change c
    exact ⟨0, weight_pos _, ((Continues.refl r).absorb hretires.pool hretires.queue).withAnswer _⟩
  | setCapacity n =>
    have hsame := r.service.sameReservoirs_setCapacity n
    exact ⟨0, weight_pos _, ((Continues.refl r).absorb hsame.pool hsame.queue).withAnswer _⟩
  | getOrCreate app =>
    refine ⟨0, weight_pos _, ((Continues.refl r).withService ?_ ?_).withAnswer _⟩
    · exact Nat.le_of_eq (congrArg Backlog.size (r.service.backlog_getOrCreate .ordinary app))
    · exact fun hr => hr.getOrCreate .ordinary app
  | clear =>
    have hretires := r.service.retires_clearOrdinary
    exact ⟨0, weight_pos _, ((Continues.refl r).withPool hretires.pool hretires.queue).withAnswer _⟩
  | shutDown =>
    have hretires := r.service.retires_shutDown
    exact ⟨0, weight_pos _, ((Continues.refl r).absorb hretires.pool hretires.queue).withAnswer _⟩
  | askEnabled app =>
    have hsame := r.service.sameReservoirs_askEnabled app
    exact ⟨0, weight_pos _, ((Continues.refl r).withPool hsame.pool hsame.queue).withAnswer _⟩
  | background steps =>
    have hhidden : Continues 0 r { r with inBackground := true } :=
      (Continues.refl r).same rfl rfl (Nat.le_refl _) id
    refine ⟨_, ?_, hhidden.within steps (f := .foreground r.inBackground) trivial⟩
    rw [frameWeight, Step.weight]
    omega
  | probe p => nomatch p

/-- **What is pushed in the place of a frame weighs less** than the frame did. -/
theorem continues_resume {r : Run E Empty Unit} {f : Frame E Empty} (hs : r.service.Sound aside)
    (hf : f.IsProper) : ∃ w, w < frameWeight f ∧ Continues w r (r.resume (.idle E) f) := by
  cases f with
  | steps steps =>
    cases steps with
    | nil => exact ⟨0, by rw [frameWeight]; omega, .refl r⟩
    | cons s rest =>
      obtain ⟨w, hw, hstart⟩ := continues_start (r.push (.steps rest)) s
      have hrest : Continues _ r (r.push (.steps rest)) :=
        (Continues.refl r).push (f := .steps rest) trivial
      refine ⟨_, ?_, hrest.trans hstart⟩
      rw [frameWeight, frameWeight, Step.totalWeight]
      omega
  | asked app job => exact ⟨_, by rw [frameWeight]; omega, continues_afterAsk hs app hf⟩
  | compete kind app job =>
    have hpos : 0 < frameWeight (.compete kind app job : Frame E Empty) := by
      cases kind <;> rw [frameWeight] <;> omega
    exact ⟨frameWeight (.compete kind app job : Frame E Empty) - 1, by omega,
      continues_compete hs kind app job (by omega)⟩
  | built app job namesVersion goal =>
    exact ⟨_, by rw [frameWeight]; omega, continues_afterBuild hs app job namesVersion goal⟩
  | offer kind app job ref =>
    have hround : ∀ kind', frameWeight (.compete kind' app job : Frame E Empty) ≤
        3 + jobWeight job := by
      intro kind'
      cases kind' <;> rw [frameWeight]
      omega
    exact ⟨_, by rw [frameWeight]; omega,
      continues_offerTo r (fun _ => hround kind) fun _ => hround .ordinary⟩
  | drain app budget => exact ⟨5, by rw [frameWeight]; decide, r.continues_drain app budget⟩
  | settleSynthetic app budget flight =>
    exact ⟨_, by rw [frameWeight]; decide, r.continues_settleSynthetic app budget flight⟩
  | ordinary app => exact ⟨2, by rw [frameWeight]; decide, r.continues_harvestOrdinary app⟩
  | settleOrdinary app flight =>
    exact ⟨0, by rw [frameWeight]; decide, r.continues_settleOrdinary app flight⟩
  | foreground wasBackground =>
    exact ⟨0, by rw [frameWeight]; decide, (Continues.refl r).same rfl rfl (Nat.le_refl _) id⟩

end Continues

/-! ### Runs -/

section Proper

variable [HasPriority E] {r r' : Run E Empty Unit}

/-- **A proper run**: what holds of every run from its start. -/
structure IsProper (r : Run E Empty Unit) : Prop where
  sound : r.Sound 0
  frames : ∀ f ∈ r.stack, f.IsProper
  regular : r.service.IsRegular

/-- Of the frames of a proper run, the one on top is taken off and others are put there. -/
theorem IsProper.continues (h : r.IsProper) {f : Frame E Empty} {rest : List (Frame E Empty)}
    (hstack : r.stack = f :: rest) : ∃ w, w < frameWeight f ∧
      Continues w { r with stack := rest } ({ r with stack := rest }.resume (.idle E) f) :=
  continues_resume (r := { r with stack := rest }) h.sound.service
    (h.frames f (hstack ▸ List.mem_cons_self))

theorem IsProper.step (h : r.IsProper) (hstep : r.step (.idle E) = some r') : r'.IsProper := by
  have hkept : Kept (fun _ => ()) False _ r 0 r' 0 := h.sound.step rfl hstep
  obtain ⟨f, rest, hstack, rfl⟩ := step_eq_some_iff.1 hstep
  obtain ⟨w, -, hcontinues⟩ := h.continues hstack
  obtain ⟨frames, hframes, hproper, -⟩ := hcontinues.pushed
  refine ⟨hkept.sound, fun g hg => ?_, hcontinues.regular h.regular⟩
  rw [hframes] at hg
  rcases List.mem_append.1 hg with hg | hg
  · exact hproper g hg
  · exact h.frames g (hstack ▸ List.mem_cons_of_mem f hg)

theorem IsProper.advance (h : r.IsProper) (n : Nat) : (r.advance (.idle E) n).IsProper := by
  induction n generalizing r with
  | zero => exact h
  | succ n ih =>
    cases hstep : r.step (.idle E) with
    | none => rwa [advance_succ_of_none hstep]
    | some r' =>
      rw [advance_succ_of_some hstep]
      exact ih (h.step hstep)

/-- **Each step takes something off the weight.** -/
theorem IsProper.weight_lt (h : r.IsProper) (hstep : r.step (.idle E) = some r') :
    r'.weight < r.weight := by
  obtain ⟨f, rest, hstack, rfl⟩ := step_eq_some_iff.1 hstep
  obtain ⟨w, hlt, hcontinues⟩ := h.continues hstack
  obtain ⟨frames, hframes, -, hweight⟩ := hcontinues.pushed
  have hload : load { r with stack := rest } = r.load := rfl
  -- the frames below are the same on both sides
  rw [weight_eq, weight_eq, hframes, hstack, stackWeight_append, stackWeight_cons]
  change stackWeight frames + stackWeight rest + _ < _
  omega

theorem IsProper.stack_advance (h : r.IsProper) {n : Nat} (hn : r.weight < n) :
    (r.advance (.idle E) n).stack = [] := by
  induction n generalizing r with
  | zero => exact absurd hn (Nat.not_lt_zero _)
  | succ n ih =>
    cases hstep : r.step (.idle E) with
    | none =>
      rw [advance_succ_of_none hstep]
      exact step_eq_none_iff.1 hstep
    | some r' =>
      rw [advance_succ_of_some hstep]
      have hlt := h.weight_lt hstep
      exact ih (h.step hstep) (by omega)

/-- **Every run ends** within as many steps as it weighs. -/
theorem IsProper.stack_complete (h : r.IsProper) : (r.complete (.idle E)).stack = [] :=
  h.stack_advance (Nat.lt_succ_self _)

theorem isProper_fresh (settings : Config.Settings) (transport : Transport E Empty)
    (steps : List (Step E Empty)) (random : Random.Source) :
    (fresh settings transport steps random).IsProper := by
  refine ⟨sound_fresh settings transport steps random, fun f hf => ?_,
    Service.isRegular_create settings⟩
  rw [List.mem_singleton.1 hf]
  trivial

end Proper

end Run

end Telemetry.Events
