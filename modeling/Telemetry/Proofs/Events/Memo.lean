import Telemetry.Proofs.Events.Precedence

/-!
# Decisions that are written late

Whether an application is collected is remembered, together with the generation of the settings
that the decision was made by. A program that makes a decision may get round to writing it down
much later, when the settings have changed, or after newer decisions. `Run.Written` are the
states of a run into which such writes are inserted, anywhere and any number of times: each
writes what some earlier state of the same run says, under the generation of that state.

A late write does no harm. If its generation is the current one, the settings have not changed
since, as far as collecting goes (`Service.Precedes`), so the decision is still right; if not,
it is not looked at. So what is remembered stays candid, and
`Run.fst_askEnabled_of_written` follows: **whoever asks is told what the settings say now**.
-/

namespace Telemetry.Events

open Sampling (HasPriority)

variable {E P S : Type}

namespace Service

/-- **A late write** of what an earlier state of the service says. -/
theorem IsCandid.memoize_late {old s : Service E} (h : s.IsCandid) (hp : old.Precedes s)
    (app : String) : (s.memoize app old.generation (old.appSettings app).enabled).IsCandid := by
  refine ⟨fun {app' generation decision} hget => ?_, fun {app' decision} hget => ?_⟩
  all_goals
    rw [Service.memoize, Dict.get?_insert] at hget
    split at hget
  · obtain ⟨rfl, -⟩ := Prod.mk.inj (Option.some.inj hget)
    exact hp.generation
  · exact h.le hget
  next heq =>
    -- the entry counts, so its generation is the current one, where nothing has changed
    obtain ⟨hgeneration, rfl⟩ := Prod.mk.inj (Option.some.inj hget)
    have hsame : s.isCollected app = old.isCollected app := hp.isCollected hgeneration.symm app
    rw [heq]
    exact hsame.symm
  next => exact h.decided hget

end Service

namespace Run

/-- Every state of a run, with the states before it: what is remembered is candid, and all the
states before precede it. -/
structure IsCandid (r : Run E Empty Unit) (earlier : List (Run E Empty Unit)) : Prop where
  service : r.service.IsCandid
  precedes : ∀ old ∈ earlier, old.service.Precedes r.service

theorem IsCandid.precedes_self {r : Run E Empty Unit} {earlier : List (Run E Empty Unit)}
    (h : r.IsCandid earlier) : ∀ old ∈ r :: earlier, old.service.Precedes r.service := by
  intro old hold
  rcases List.mem_cons.1 hold with rfl | hold
  · exact .refl _
  · exact h.precedes old hold

/-- A state that another one precedes is preceded by all before that one, too. -/
theorem IsCandid.next {r r' : Run E Empty Unit} {earlier : List (Run E Empty Unit)}
    (h : r.IsCandid earlier) (hcandid : r'.service.IsCandid)
    (hp : r.service.Precedes r'.service) : r'.IsCandid (r :: earlier) :=
  ⟨hcandid, fun old hold => (h.precedes_self old hold).trans hp⟩

variable [HasPriority E]

/-- **The states of a run with late writes**, the latest first. A state goes on by a step of the
run, or by writing down what one of the states so far says about an application. -/
inductive Written (first : Run E Empty Unit) : List (Run E Empty Unit) → Prop
  | start : Written first [first]
  | step {r r' : Run E Empty Unit} {earlier : List (Run E Empty Unit)}
      (h : Written first (r :: earlier)) (hstep : r.step (.idle E) = some r') :
      Written first (r' :: r :: earlier)
  | write {r old : Run E Empty Unit} {earlier : List (Run E Empty Unit)}
      (h : Written first (r :: earlier)) (hold : old ∈ r :: earlier) (app : String) :
      Written first (r.withService (r.service.memoize app old.service.generation
        (old.service.appSettings app).enabled) :: r :: earlier)

/-- A step writes down only what the settings say. -/
theorem isCandid_step {r r' : Run E Empty Unit} (h : r.service.IsCandid)
    (hstep : r.step (.idle E) = some r') : r'.service.IsCandid := by
  have hnext := isCandid_advance h 1
  rw [advance_succ_of_some hstep] at hnext
  exact hnext

theorem Written.isCandid {first : Run E Empty Unit} (hfirst : first.service.IsCandid)
    {states : List (Run E Empty Unit)} (h : Written first states) :
    ∀ {r earlier}, states = r :: earlier → r.IsCandid earlier := by
  induction h with
  | start =>
    intro r earlier heq
    obtain ⟨rfl, rfl⟩ := List.cons.inj heq
    exact ⟨hfirst, fun old hold => absurd hold List.not_mem_nil⟩
  | step _ hstep ih =>
    intro r earlier heq
    obtain ⟨rfl, rfl⟩ := List.cons.inj heq
    have hbefore := ih rfl
    exact hbefore.next (isCandid_step hbefore.service hstep) (precedes_step hstep)
  | write _ hold app ih =>
    intro r earlier heq
    obtain ⟨rfl, rfl⟩ := List.cons.inj heq
    have hbefore := ih rfl
    exact hbefore.next (hbefore.service.memoize_late (hbefore.precedes_self _ hold) app)
      (Service.precedes_memoize _ _ _ _)

/-- **No decision is ever stale.** In every state of every run of a new service, with any late
writes into it, an application is said to be collected exactly if its settings of that moment
say so. -/
theorem fst_askEnabled_of_written (settings : Config.Settings) (transport : Transport E Empty)
    (steps : List (Step E Empty)) (random : Random.Source) {r : Run E Empty Unit}
    {earlier : List (Run E Empty Unit)}
    (h : Written (fresh settings transport steps random) (r :: earlier)) (app : String) :
    (r.service.askEnabled app).1 = (r.service.appSettings app).enabled :=
  (h.isCandid (isCandid_fresh settings transport steps random) rfl).service.fst_askEnabled app

open Simulation (Event) in
/-- An application is asked about and disabled, and only then is the answer written down that it
was enabled. -/
theorem fst_askEnabled_late :
    let first : Run Event Empty Unit := fresh {} {}
      [.askEnabled "a", .change (.app "a" { enabled := false })] (.ofSeed 0)
    let last := first.advance (.idle _) 2
    let written := last.withService (last.service.memoize "a" first.service.generation
      (first.service.appSettings "a").enabled)
    written.service.memo.get? "a" = some (0, true) ∧
      (written.service.askEnabled "a").1 = (written.service.appSettings "a").enabled := by
  intro first last written
  obtain ⟨second, hsecond⟩ : ∃ second, first.step (.idle _) = some second := ⟨_, rfl⟩
  obtain ⟨third, hthird⟩ : ∃ third, second.step (.idle _) = some third := by
    obtain rfl := Option.some.inj hsecond
    exact ⟨_, rfl⟩
  have hlast : last = third := by
    change first.advance _ 2 = third
    rw [advance_succ_of_some hsecond, advance_succ_of_some hthird, advance]
  have hstates : Written first [written, last, second, first] := by
    subst hlast
    refine .write (.step (.step .start hsecond) hthird) ?_ "a"
    exact List.mem_cons_of_mem _ (List.mem_cons_of_mem _ List.mem_cons_self)
  exact ⟨by decide +kernel, fst_askEnabled_of_written _ _ _ _ hstates "a"⟩

end Run

end Telemetry.Events
