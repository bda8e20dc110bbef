import Telemetry.Simulation.Run
import Telemetry.Proofs.Double.Finite
import Telemetry.Proofs.Events.Performing
import Telemetry.Proofs.Simulation.Line
import Telemetry.Proofs.Simulation.Load
import Telemetry.Proofs.Simulation.Output

/-!
# A simulation without failures delivers every event

Between two calls a simulation is *ready* (`IsReady`): the service serves the simulated
applications, holds some events, and the transport has taken others. What the calls of a
simulation make of these two shares:

| what is done | held | sent |
|---|---|---|
| a job is recorded (`IsReady.recordJob`) | the event, too | the same |
| an application is harvested (`IsReady.harvestApp`) | less | what is held no more, too |
| all applications are harvested (`IsReady.harvestAll`) | nothing | everything |

A cycle starts with nothing held, and its jobs are as many as there is room for, so no event is
turned away (`IsReady.runCycle`); after all cycles everything that was recorded has been sent
(`isReady_runCycles`).

The events are counted with their applications, and as a multiset: the jobs of a cycle may be
recorded in any order, and a reservoir gives its events back by priority.
-/

namespace Telemetry.Simulation

open Events (Kind Note Service Batch)
open Events.Service (parcelsOf)

variable {settings : Config.Settings} {o : Options} {order : Interleaving}

/-! ### What is recorded -/

/-- A run in which a job is about to be recorded: its random bits are next. -/
def prepared (r : Run) (j : Job) : Run :=
  { r with random := .ofDraws [j.decisionDraw, j.priorityDraw] }

/-- The application and the event that recording a job comes to: the event of the job, with the
priority that the service draws for it. -/
def made (r : Run) (j : Job) : String × Event :=
  (j.app, (j.work ((prepared r j).drawPriority j.app).lastDrawn).event)

/-- What recording some jobs comes to, in order. -/
def madeBy : Run → List Job → List (String × Event)
  | _, [] => []
  | r, j :: jobs => made r j :: madeBy (recordJob r j) jobs

/-- The jobs of a cycle, in the order in which they are recorded. -/
def jobsOf (o : Options) (order : Interleaving) (cycle : Nat) (seeds : Random.Source) : List Job :=
  order cycle (cycleJobs o o.producers seeds).1

/-- What is recorded in some cycles, in order. -/
def madeIn (o : Options) (order : Interleaving) :
    List Nat → Run × Random.Source → List (String × Event)
  | [], _ => []
  | cycle :: cycles, state =>
    madeBy state.1 (jobsOf o order cycle state.2) ++
      madeIn o order cycles (runCycle o order cycle state)

/-- **The events that a simulation records**, each with its application. -/
def recordedEvents (settings : Config.Settings) (o : Options) (seed : UInt64)
    (order : Interleaving) : List (String × Event) :=
  madeIn o order (List.range o.cycles) (start settings o seed)

/-- The events of some batches, each with its application. -/
def eventsOf (batches : List (Batch Event)) : List (String × Event) :=
  batches.flatMap fun b => b.events.map (b.app, ·)

theorem length_madeBy (r : Run) (jobs : List Job) : (madeBy r jobs).length = jobs.length := by
  induction jobs generalizing r with
  | nil => rfl
  | cons j jobs ih => exact congrArg Nat.succ (ih _)

/-- The jobs of a cycle are recorded in some order. -/
def Interleaving.IsFair (order : Interleaving) : Prop :=
  ∀ cycle jobs, (order cycle jobs).Perm jobs.flatten

theorem length_jobsOf (horder : order.IsFair) (cycle : Nat) (seeds : Random.Source) :
    (jobsOf o order cycle seeds).length = o.load :=
  (horder cycle _).length_eq.trans (length_cycleJobs o seeds)

theorem isProper_jobsOf (happs : 0 < o.apps) (horder : order.IsFair) (cycle : Nat)
    (seeds : Random.Source) : ∀ j ∈ jobsOf o order cycle seeds, j.IsProper o := fun j hj =>
  isProper_cycleJobs happs o.producers seeds j ((horder cycle _).subset hj)

/-- **Each cycle records as many events as the load says.** -/
theorem length_madeIn (horder : order.IsFair) (cycles : List Nat) (state : Run × Random.Source) :
    (madeIn o order cycles state).length = cycles.length * o.load := by
  induction cycles generalizing state with
  | nil => exact (Nat.zero_mul _).symm
  | cons cycle cycles ih =>
    rw [madeIn, List.length_append, length_madeBy, length_jobsOf horder, ih, List.length_cons,
      Nat.succ_mul, Nat.add_comm]

/-- The jobs that are drawn for a number of cycles, whoever records them when. -/
def drawnJobs (o : Options) : Nat → Random.Source → List Job
  | 0, _ => []
  | cycles + 1, seeds =>
    let (jobs, seeds) := cycleJobs o o.producers seeds
    jobs.flatten ++ drawnJobs o cycles seeds

/-- What a job says of its transaction: all but the random bits of the priority. -/
def Job.transaction (j : Job) : String × String × Nat × Bool :=
  (j.app, j.name, j.duration, j.isSynthetic)

/-- What an event says of its transaction: all but the priority. -/
def transactionOf (e : String × Event) : String × String × Nat × Bool :=
  (e.1, e.2.name, e.2.duration, e.2.isSynthetic)

theorem map_madeBy (r : Run) (jobs : List Job) :
    (madeBy r jobs).map transactionOf = jobs.map Job.transaction := by
  induction jobs generalizing r with
  | nil => rfl
  | cons j jobs ih => exact congrArg (j.transaction :: ·) (ih _)

/-- **What is recorded are the transactions that were drawn**, each once. -/
theorem map_madeIn_perm (horder : order.IsFair) (cycles : List Nat) (state : Run × Random.Source) :
    ((madeIn o order cycles state).map transactionOf).Perm
      ((drawnJobs o cycles.length state.2).map Job.transaction) := by
  induction cycles generalizing state with
  | nil => exact .nil
  | cons cycle cycles ih =>
    rw [madeIn, List.map_append, map_madeBy, List.length_cons, drawnJobs, List.map_append]
    exact ((horder cycle _).map _).append (ih (runCycle o order cycle state))

theorem isReadable_made (r : Run) {j : Job} (hj : j.IsProper o) : (made r j).2.IsReadable :=
  ⟨hj.duration.2.trans (by decide), Double.isNumber_priorityOf _ _⟩

theorem isReadable_madeBy {jobs : List Job} (hjobs : ∀ j ∈ jobs, j.IsProper o) (r : Run) :
    ∀ e ∈ madeBy r jobs, e.2.IsReadable := by
  induction jobs generalizing r with
  | nil => exact fun e he => absurd he List.not_mem_nil
  | cons j jobs ih =>
    intro e he
    rcases List.mem_cons.1 he with rfl | he
    · exact isReadable_made r (hjobs j List.mem_cons_self)
    · exact ih (fun j' hj' => hjobs j' (List.mem_cons_of_mem j hj')) _ e he

/-- **What is recorded can be told by lines.** -/
theorem isReadable_madeIn (happs : 0 < o.apps) (horder : order.IsFair) (cycles : List Nat)
    (state : Run × Random.Source) : ∀ e ∈ madeIn o order cycles state, e.2.IsReadable := by
  induction cycles generalizing state with
  | nil => exact fun e he => absurd he List.not_mem_nil
  | cons cycle cycles ih =>
    intro e he
    rcases List.mem_append.1 he with he | he
    · exact isReadable_madeBy (isProper_jobsOf happs horder cycle state.2) _ e he
    · exact ih _ e he

/-! ### Parcels -/

/-- Some events as parcels, all of one label. -/
def parcels (es : List (String × Event)) : Multiset (Unit × String × Event) :=
  (es.map fun e => ((), e) : List _)

theorem parcels_append (es es' : List (String × Event)) :
    parcels (es ++ es') = parcels es + parcels es' := by
  rw [parcels, List.map_append]
  rfl

/-- Parcels tell events up to their order. -/
theorem parcels_eq_iff {es es' : List (String × Event)} : parcels es = parcels es' ↔ es.Perm es' :=
  Multiset.coe_eq_coe.trans (List.map_perm_map_iff fun _ _ h => (Prod.mk.inj h).2)

theorem parcels_eventsOf (batches : List (Kind × Batch Event)) :
    parcels (eventsOf (batches.map (·.2))) = parcelsOf (fun _ => ()) batches := by
  induction batches with
  | nil => rfl
  | cons b batches ih =>
    change parcels (b.2.events.map (b.2.app, ·) ++ eventsOf (batches.map (·.2))) =
      b.2.parcels (fun _ => ()) b.1 + parcelsOf (fun _ => ()) batches
    rw [parcels_append, ih, parcels, List.map_map]
    rfl

/-! ### Calls -/

/-- **A run between two calls**: it serves the simulated applications, holds some events, and
has sent others. -/
structure IsReady (o : Options) (r : Run) (held sent : Multiset (Unit × String × Event)) :
    Prop where
  has : r.Has [] r.service r.taken
  serves : r.service.Serves o.appNames o.load
  held : r.service.holding (fun _ => ()) 0 = held
  sent : parcelsOf (fun _ => ()) r.taken = sent

variable {r : Run} {held sent : Multiset (Unit × String × Event)}

theorem isReady_of_has {s : Service Event} {out : List (Kind × Batch Event)}
    (h : r.Has [] s out) (hserves : s.Serves o.appNames o.load)
    (hheld : s.holding (fun _ => ()) 0 = held) (hsent : parcelsOf (fun _ => ()) out = sent) :
    IsReady o r held sent := by
  obtain rfl := h.service
  obtain rfl := h.taken
  exact ⟨h, hserves, hheld, hsent⟩

/-- **Recording a job** adds its event to what is held, as long as there is room. -/
theorem IsReady.recordJob (h : IsReady o r held sent) {j : Job} (hj : j.IsProper o)
    (hroom : held.card < o.load) :
    IsReady o (recordJob r j) (held + {((), made r j)}) sent := by
  have hhas : (prepared r j).Has [] r.service r.taken := h.has.same rfl rfl rfl rfl
  rw [← h.held] at hroom
  have hnumber : Double.isNumber ((prepared r j).drawPriority j.app).lastDrawn :=
    Double.isNumber_priorityOf _ _
  have hdone : (Simulation.recordJob r j).Has [] _ _ :=
    hhas.perform_recordDrawn h.serves hroom hj.app rfl hnumber hnumber
  have hdecided : Service.Gains (fun _ => ()) o.appNames o.load r.service
      (r.service.decideNext j.app (prepared r j).random.unit.1).2 0 :=
    h.serves.gains_decideNext hj.app _
  have hasked := hdecided.andThen (hdecided.serves.gains_askEnabled j.app)
  have htaken := hasked.andThen (hasked.serves.gains_taking (hasked.room hroom) hj.app
    (j.work ((prepared r j).drawPriority j.app).lastDrawn) hnumber)
  refine isReady_of_has hdone htaken.serves ?_ h.sent
  rw [htaken.holding, h.held]
  rfl

/-- **Recording some jobs**, when there is room for all of them. -/
theorem IsReady.recordJobs (h : IsReady o r held sent) {jobs : List Job}
    (hjobs : ∀ j ∈ jobs, j.IsProper o) (hroom : held.card + jobs.length ≤ o.load) :
    IsReady o (jobs.foldl Simulation.recordJob r) (held + parcels (madeBy r jobs)) sent := by
  induction jobs generalizing r held with
  | nil => exact (Multiset.add_zero held).symm ▸ h
  | cons j jobs ih =>
    rw [List.length_cons] at hroom
    have hfirst := h.recordJob (hjobs j List.mem_cons_self) (by omega)
    have hrest := ih hfirst (fun j' hj' => hjobs j' (List.mem_cons_of_mem j hj')) (by
      rw [Multiset.card_add, Multiset.card_singleton]
      omega)
    rw [Multiset.add_assoc] at hrest
    exact hrest

/-- **What harvests of some applications come to**: the run is ready with the same events in
total, and holds nothing for these applications. -/
structure Clears (o : Options) (apps : List String) (r r' : Run)
    (total : Multiset (Unit × String × Event)) : Prop where
  isReady : ∃ held sent, IsReady o r' held sent ∧ held + sent = total
  isBare : ∀ kind app, app ∈ apps ∨ r.service.IsBare kind app → r'.service.IsBare kind app

/-- **Harvesting an application** sends what is held for it. -/
theorem IsReady.harvestApp (h : IsReady o r held sent) {app : String} (happ : app ∈ o.appNames) :
    Clears o [app] r (harvestApp r app) (held + sent) := by
  have hdone : (Simulation.harvestApp r app).Has [] _ _ := h.has.perform_harvest h.serves happ
  obtain ⟨hserves, hholding, hbare⟩ := h.serves.harvested happ
  refine ⟨⟨_, _, isReady_of_has hdone hserves rfl rfl, ?_⟩, fun kind app' happ' => ?_⟩
  · rw [← h.held, ← h.sent, ← hholding, Service.parcelsOf_append, Service.parcelsOf_reverse,
      Multiset.add_assoc]
  · rw [hdone.service]
    exact hbare kind app' (happ'.imp_left List.mem_singleton.1)

/-- **Harvesting some applications** moves what is held for them to what is sent. -/
theorem IsReady.harvestApps (h : IsReady o r held sent) {apps : List String}
    (happs : ∀ app ∈ apps, app ∈ o.appNames) :
    Clears o apps r (apps.foldl Simulation.harvestApp r) (held + sent) := by
  induction apps generalizing r held sent with
  | nil => exact ⟨⟨held, sent, h, rfl⟩, fun _ _ hbare => hbare.resolve_left List.not_mem_nil⟩
  | cons app apps ih =>
    have hfirst := h.harvestApp (happs app List.mem_cons_self)
    obtain ⟨held', sent', hready, htotal⟩ := hfirst.isReady
    have hrest := ih hready fun app' happ' => happs app' (List.mem_cons_of_mem app happ')
    rw [htotal] at hrest
    refine ⟨hrest.isReady, fun kind app' happ' => hrest.isBare kind app' ?_⟩
    rw [← List.singleton_append, List.mem_append, or_assoc, or_left_comm] at happ'
    exact happ'.imp_right (hfirst.isBare kind app')

/-- **Harvesting all applications** sends everything. -/
theorem IsReady.harvestAll (h : IsReady o r held sent) :
    IsReady o (o.appNames.foldl Simulation.harvestApp r) 0 (held + sent) := by
  obtain ⟨⟨held', sent', hready, htotal⟩, hbare⟩ := h.harvestApps fun _ happ => happ
  have hzero : held' = 0 := hready.held.symm.trans
    (hready.serves.holding_eq_zero fun kind app happ => hbare kind app (.inl happ))
  rw [hzero, Multiset.zero_add] at htotal
  rwa [hzero, htotal] at hready

/-! ### Cycles -/

/-- **A cycle** that starts with nothing held sends all that is recorded in it. -/
theorem IsReady.runCycle {state : Run × Random.Source} (h : IsReady o state.1 0 sent)
    (happs : 0 < o.apps) (horder : order.IsFair) (cycle : Nat) :
    IsReady o (runCycle o order cycle state).1 0
      (parcels (madeBy state.1 (jobsOf o order cycle state.2)) + sent) := by
  have hrecorded := h.recordJobs (isProper_jobsOf happs horder cycle state.2) (by
    rw [Multiset.card_zero, length_jobsOf horder]
    exact Nat.le_of_eq (Nat.zero_add _))
  have hsent := hrecorded.harvestAll
  rw [Multiset.zero_add] at hsent
  exact isReady_of_has (hsent.has.note rfl) hsent.serves hsent.held hsent.sent

/-- **Some cycles** send all that is recorded in them. -/
theorem IsReady.cycles {state : Run × Random.Source} (h : IsReady o state.1 0 sent)
    (happs : 0 < o.apps) (horder : order.IsFair) (cycles : List Nat) :
    IsReady o (cycles.foldl (fun state cycle => Simulation.runCycle o order cycle state) state).1 0
      (parcels (madeIn o order cycles state) + sent) := by
  induction cycles generalizing state sent with
  | nil => exact (Multiset.zero_add sent).symm ▸ h
  | cons cycle cycles ih =>
    have hrest := ih (h.runCycle happs horder cycle)
    rw [← Multiset.add_assoc, Multiset.add_comm (parcels _), ← parcels_append] at hrest
    exact hrest

/-- A simulation without failures starts ready, with nothing held or sent. -/
theorem isReady_start (hsettings : settings.Collects o.appNames o.load)
    (hrate : o.failRate == 0.0) (seed : UInt64) : IsReady o (start settings o seed).1 0 0 := by
  have hclamped : (transmitter o.failRate (Random.Source.ofSeed seed).next64.1 none).failRate ==
      0.0 := by
    change Double.clampToUnit o.failRate == 0.0
    rwa [Double.clampToUnit_of_beq_zero hrate]
  have hreliable : (start settings o seed).1.transport.IsReliable := ⟨rfl, _, rfl, hclamped, rfl⟩
  exact isReady_of_has ⟨rfl, rfl, taken_start settings o seed, hreliable⟩ (Service.serves_create hsettings) rfl rfl

/-- **After all cycles** nothing is held, and all that was recorded has been sent. -/
theorem isReady_runCycles (happs : 0 < o.apps) (horder : order.IsFair)
    (hsettings : settings.Collects o.appNames o.load) (hrate : o.failRate == 0.0) (seed : UInt64) :
    IsReady o (runCycles settings o seed order) 0
      (parcels (recordedEvents settings o seed order)) := by
  have hready := (isReady_start hsettings hrate seed).cycles happs horder (List.range o.cycles)
  rwa [Multiset.add_zero] at hready

/-! ### The whole simulation -/

theorem length_eventsOf (batches : List (Batch Event)) :
    (eventsOf batches).length = (batches.map (·.events.length)).sum := by
  rw [eventsOf, List.length_flatMap]
  simp only [List.length_map]

/-- The lines of some batches tell their events. -/
theorem map_readLine? {batches : List (Batch Event)}
    (h : ∀ e ∈ eventsOf batches, e.2.IsReadable) :
    (batches.map batchLine).map readLine? =
      (batches.map fun b => b.events.map (b.app, ·)).map some := by
  rw [List.map_map, List.map_map, List.map_inj_left]
  intro b hb
  refine readLine?_batchLine fun e he => h (b.app, e) ?_
  exact List.mem_flatMap.2 ⟨b, hb, List.mem_map_of_mem he⟩

/-- **A simulation without failures delivers every event.** It records as many events as the load
says in each cycle, leaves no batch waiting, and writes a line for each batch it counts. Read back,
the lines tell as many events as it counts, and exactly the recorded ones, which are those of the
transactions drawn. -/
theorem simulate_delivers (settings : Config.Settings) (o : Options) (seed : UInt64)
    (order : Interleaving) (happs : 0 < o.apps) (hproducers : 0 < o.producers)
    (hratio : isProbability o.syntheticRatio) (hrate : o.failRate == 0.0)
    (hsettings : settings.Collects o.appNames o.load) (horder : order.IsFair) :
    ∃ (report : Report) (read : List (List (String × Event))),
      simulate settings o seed order = .ok report ∧
      report.summary.events = o.cycles * o.load ∧
      report.summary.pending = 0 ∧
      report.lines.length = report.summary.batches ∧
      report.output = String.join (report.lines.map (· ++ "\n")) ∧
      report.journal.filterMap lineOf? = report.lines ∧
      report.lines.map readLine? = read.map some ∧
      read.flatten.length = report.summary.events ∧
      read.flatten.Perm (recordedEvents settings o seed order) ∧
      ((recordedEvents settings o seed order).map transactionOf).Perm
        ((drawnJobs o o.cycles (Random.Source.ofSeed seed).next64.2).map Job.transaction) := by
  have hready := isReady_runCycles happs horder hsettings hrate seed
  have hfault : o.fault? = none := by
    simp [Options.fault?, Nat.ne_of_gt happs, Nat.ne_of_gt hproducers, hratio,
      isProbability_of_beq_zero hrate]
  obtain ⟨report, hreport, hpending, hof⟩ := exists_report settings seed order hfault
  rw [Events.Backlog.size, hready.serves.queue] at hpending
  obtain ⟨batches, hbatches⟩ :
    ∃ batches, (runCycles settings o seed order).taken.reverse.map (·.2) = batches := ⟨_, rfl⟩
  rw [hbatches] at hof
  have hperm : (eventsOf batches).Perm (recordedEvents settings o seed order) := by
    refine parcels_eq_iff.1 ?_
    rw [← hbatches, parcels_eventsOf, Service.parcelsOf_reverse, hready.sent]
  have hevents : report.summary.events = (eventsOf batches).length := by
    rw [hof.events, length_eventsOf]
  have hread := map_readLine? fun e he =>
    isReadable_madeIn happs horder _ _ e (hperm.mem_iff.1 he)
  have hdrawn := map_madeIn_perm (o := o) horder (List.range o.cycles) (start settings o seed)
  rw [List.length_range] at hdrawn
  refine ⟨report, _, hreport, ?_, hpending, by rw [hof.lines, hof.batches, List.length_map],
    hof.output, hof.journal, by rw [hof.lines, hread], by rw [hevents, ← List.flatMap_def]; rfl,
    by rwa [← List.flatMap_def], hdrawn⟩
  rw [hevents, hperm.length_eq, recordedEvents, length_madeIn horder, List.length_range]

/-- Two producers share three events, so each of two cycles records four, and there is room for no
more; the later producer is first. -/
theorem simulate_delivers_three :
    let settings : Config.Settings :=
      { transactionEvents := { maxSamplesStored := 4 }, harvest := { synthetics := ⟨4, 1, 1⟩ } }
    let o : Options :=
      { apps := 2, producers := 2, cycles := 2, eventsPerCycle := 3, syntheticRatio := 0.5 }
    let order : Interleaving := fun _ jobs => jobs.reverse.flatten
    settings.Collects o.appNames o.load ∧ order.IsFair ∧
      ∃ (report : Report) (read : List (List (String × Event))),
        simulate settings o 7 order = .ok report ∧
        report.summary.events = 8 ∧ report.summary.pending = 0 ∧
        report.lines.map readLine? = read.map some ∧
        read.flatten.Perm (recordedEvents settings o 7 order) := by
  intro settings o order
  have hload : o.load = 4 := by decide
  have hsettings : settings.Collects o.appNames o.load := by
    rw [hload]
    exact ⟨rfl, fun _ _ => rfl, fun _ _ => Nat.le_refl 4, by decide, by decide, by decide⟩
  have horder : order.IsFair := fun _ jobs => jobs.reverse_perm.flatten
  obtain ⟨report, read, hreport, hevents, hpending, _, _, _, hread, _, hperm, _⟩ :=
    simulate_delivers settings o 7 order (by decide) (by decide) (by decide +kernel)
      (by decide +kernel) hsettings horder
  rw [hload] at hevents
  exact ⟨hsettings, horder, report, read, hreport, hevents, hpending, hread, hperm⟩

end Telemetry.Simulation
