import Telemetry.Simulation.Run
import Telemetry.Proofs.Events.Outside
import Telemetry.Proofs.Events.Termination

/-!
# What a simulation writes

However often the collector is down, and in whatever order jobs are recorded, each call of a
simulation comes to its end, and its transmitter has written the batches that were taken by then
(`IsSettled`). So the lines that a simulation has written are those of the batches that its journal
says were taken, and these are the batches and events that it counts (`exists_report`).
-/

namespace Telemetry.Simulation

open Events (Batch Note Service)

variable {settings : Config.Settings} {o : Options} {order : Interleaving} {r : Run}

/-! ### Between two calls -/

/-- **A run between two calls**: no call is on its way, and what was taken has been written. -/
structure IsSettled (r : Run) : Prop where
  isProper : r.IsProper
  stack : r.stack = []
  isWritten : r.outside.IsWritten batchLine

/-- Random bits and notes are nothing that a run between two calls depends on. -/
theorem isProper_same {r r' : Run} (h : r.IsProper) (hservice : r'.service = r.service)
    (hstack : r'.stack = r.stack) : r'.IsProper := by
  obtain ⟨⟨hsound, hfits, hwaiting⟩, hframes, hregular⟩ := h
  rw [Events.Run.aside, Events.Run.flights] at hsound
  rw [← hservice] at hsound hfits hwaiting hregular
  rw [← hstack] at hsound hfits hframes
  exact ⟨⟨hsound, hfits, hwaiting⟩, hframes, hregular⟩

/-- A call is carried out to its end. -/
theorem IsSettled.perform (h : IsSettled r) (s : Events.Step Event Empty) :
    IsSettled (r.perform (.idle Event) s) := by
  have hpushed : Events.Run.IsProper (r.push (.steps [s])) := by
    refine ⟨⟨h.isProper.sound.service, fun f hf => ?_, h.isProper.sound.waiting⟩, fun f hf => ?_,
      h.isProper.regular⟩
    · rcases List.mem_cons.1 hf with rfl | hf
      · trivial
      · exact h.isProper.sound.fits f hf
    · rcases List.mem_cons.1 hf with rfl | hf
      · trivial
      · exact h.isProper.frames f hf
  have hwritten : (r.push (.steps [s])).outside.IsWritten batchLine := h.isWritten
  exact ⟨hpushed.advance _, hpushed.stack_complete, Events.Run.isWritten_advance hwritten _⟩

theorem IsSettled.withRandom (h : IsSettled r) (random : Random.Source) :
    IsSettled { r with random := random } :=
  ⟨isProper_same h.isProper rfl rfl, h.stack, h.isWritten⟩

theorem IsSettled.log (h : IsSettled r) (severity : Log.Severity) (source message : String)
    (fields : List (String × Log.FieldValue)) :
    IsSettled (r.log severity source message fields) := by
  refine ⟨isProper_same h.isProper (r.note_service _) (r.note_stack _),
    (r.note_stack _).trans h.stack, ?_⟩
  rw [Events.Run.outside_log]
  exact h.isWritten

/-- Once nothing is left to be done, nothing is handed over. -/
theorem outside_advance_of_nil {r : Run} (h : r.stack = [.steps []]) (n : Nat) :
    (r.advance (.idle Event) n).outside = r.outside := by
  cases n with
  | zero => rfl
  | succ n =>
    have hstep : r.step (.idle Event) = some { r with stack := [] } := by
      rw [Events.Run.step, h]
      rfl
    rw [Events.Run.advance_succ_of_some hstep, Events.Run.advance_of_none rfl]
    rfl

/-- Shutting down hands nothing over. -/
theorem IsSettled.outside_shutDown (h : IsSettled r) :
    (r.perform (.idle Event) .shutDown).outside = r.outside := by
  have hstep : (r.push (.steps [.shutDown])).step (.idle Event) =
      some ((r.push (.steps [])).start (.idle Event) .shutDown) := rfl
  have hstack : ((r.push (.steps [])).start (.idle Event) .shutDown).stack = [.steps []] := by
    change (Events.Run.absorb _ _).stack = _
    rw [Events.Run.absorb_stack]
    exact congrArg (_ :: ·) h.stack
  rw [Events.Run.perform, Events.Run.complete, Events.Run.advance_succ_of_some hstep]
  refine (outside_advance_of_nil hstack _).trans (Events.Run.outside_start _ ?_)
  exact fun p => p.elim

/-! ### A whole simulation -/

/-- Nothing has been taken before the first cycle. -/
theorem taken_start (settings : Config.Settings) (o : Options) (seed : UInt64) :
    (start settings o seed).1.taken = [] := by
  change List.filterMap _ (List.reverse (if settings.transactionEvents.enabled then [] else _)) =
    []
  split <;> rfl

theorem isSettled_start (seed : UInt64) : IsSettled (start settings o seed).1 := by
  have hproper := (Events.Run.isProper_fresh settings (start settings o seed).1.transport []
    (.ofSeed 0)).advance 1
  refine ⟨isProper_same hproper rfl rfl, rfl, rfl, _, rfl, ?_⟩
  change (transmitter _ _ none).HasWritten batchLine ((start settings o seed).1.taken.reverse.map _)
  rw [taken_start]
  exact Events.Transmitter.hasWritten_create _ _ _

theorem IsSettled.runCycle {state : Run × Random.Source} (h : IsSettled state.1) (cycle : Nat) :
    IsSettled (runCycle o order cycle state).1 := by
  have hrecorded : ∀ jobs : List Job, IsSettled (jobs.foldl recordJob state.1) := fun jobs =>
    List.foldlRecOn jobs recordJob h fun _ hr _ _ => (hr.withRandom _).perform _
  have hharvested : ∀ {r : Run}, IsSettled r → IsSettled (o.appNames.foldl harvestApp r) :=
    fun hr => List.foldlRecOn o.appNames harvestApp hr fun _ hr _ _ => hr.perform _
  exact (hharvested (hrecorded _)).log _ _ _ _

/-- **After all cycles** nothing is on its way, and what was taken has been written. -/
theorem isSettled_runCycles (settings : Config.Settings) (o : Options) (seed : UInt64)
    (order : Interleaving) : IsSettled (runCycles settings o seed order) :=
  List.foldlRecOn (motive := fun state : Run × Random.Source => IsSettled state.1)
    (List.range o.cycles) _ (isSettled_start seed) fun _ h cycle _ => h.runCycle cycle

/-! ### The report -/

/-- **A report of some batches**: it counts them and their events, its lines are theirs and make up
the output, and the journal tells the same lines. -/
structure Report.IsOf (report : Report) (sent : List (Batch Event)) : Prop where
  batches : report.summary.batches = sent.length
  events : report.summary.events = (sent.map (·.events.length)).sum
  lines : report.lines = sent.map batchLine
  output : report.output = String.join (report.lines.map (· ++ "\n"))
  journal : report.journal.filterMap lineOf? = report.lines

theorem Report.lines_eq {report : Report} {batches : List (Batch Event)}
    (h : report.output = (Events.outputOf batchLine batches).text) :
    report.lines = batches.map batchLine := by
  have hsplit : ((Events.outputOf batchLine batches).text.split '\n').toList.map (·.copy) =
      batches.map batchLine ++ [""] :=
    Events.split_text_outputOf fun b _ => Json.isOneLine_render (batchJson b)
  rw [lines, h, hsplit, List.dropLast_concat]

theorem filterMap_lineOf? (notes : List (Note Event)) :
    notes.filterMap lineOf? = (notes.filterMap Note.taken?).map fun b => batchLine b.2 := by
  rw [List.map_filterMap]
  refine congrArg (fun f => notes.filterMap f) (funext fun n => ?_)
  cases n with
  | attempt kind batch outcome => cases outcome <;> rfl
  | _ => rfl

/-- **What a simulation reports**: the batches that were taken until its cycles are over, and those
that wait then. Nothing is written afterwards. -/
theorem exists_report (settings : Config.Settings) (seed : UInt64) (order : Interleaving)
    (hfault : o.fault? = none) :
    let r := runCycles settings o seed order
    ∃ report, simulate settings o seed order = .ok report ∧
      report.summary.pending = r.service.backlog.size ∧
      report.IsOf (r.taken.reverse.map (·.2)) := by
  intro r
  have hsettled : IsSettled r := isSettled_runCycles settings o seed order
  have hshut := hsettled.outside_shutDown
  have houtput : r.transport.output = Events.outputOf batchLine (r.taken.reverse.map (·.2)) :=
    hsettled.isWritten.output
  have htaken : (r.perform (.idle Event) .shutDown).taken = r.taken := congrArg (·.taken) hshut
  obtain ⟨report, hreport, hsummary, htext, hjournal⟩ : ∃ report,
      simulate settings o seed order = .ok report ∧ report.summary = summarize r ∧
      report.output = r.transport.output.text ∧
      report.journal = (r.perform (.idle Event) .shutDown).journal :=
    ⟨_, by rw [simulate, hfault], rfl, congrArg (·.transport.output.text) hshut, rfl⟩
  have hlines := Report.lines_eq (htext.trans (congrArg (·.text) houtput))
  refine ⟨report, hreport, by rw [hsummary]; rfl, ?_, ?_, hlines, ?_, ?_⟩
  · rw [hsummary, summarize, houtput, Events.batches_outputOf]
  · rw [hsummary, summarize, houtput, Events.events_outputOf]
  · rw [hlines, htext, houtput, Events.text_outputOf]
  · rw [hlines, hjournal, Events.Run.journal, List.filterMap_reverse, filterMap_lineOf?,
      ← Events.Run.taken, htaken, List.map_map, List.map_reverse]
    rfl

end Telemetry.Simulation
