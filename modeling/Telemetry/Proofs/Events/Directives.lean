import Telemetry.Proofs.Events.Errands

/-!
# Where the settings of an application come from

The service keeps three things that the settings of an application are resolved from: the file
that is loaded, the settings that were pushed, and the default capacity. Here they are told from
what has been said to it, and from nothing else:

| kept | is |
|---|---|
| `Service.settings` | the file that was loaded last (`Directive.loaded`) |
| `Service.pushed` | for each application, what was pushed for it last (`Directive.pushedFor?`) |
| `Service.maxSamplesStored` | the capacity that was set last (`Directive.capacity`) |

A *directive* is a change of the configuration or of the default capacity; everything else that a
run does leaves all three alone (`Run.sources_step`). So at every point of a run the settings of an
application are what the directives so far say (`Run.follows_fresh`,
`Service.Follows.appSettings`).

They are not always what the loaded file says. A file that is loaded again is taken up for whether
an application is collected and for its target, but the default capacity stays that of the file
the service was made with: `Run.appSettings_eq_forApp_iff` says when the two agree.
-/

namespace Telemetry.Config

/-- The capacity that a file has for an application of its own. -/
def Settings.ownCapacity? (settings : Settings) (app : String) : Option Nat :=
  (settings.apps.get? app).bind (·.maxSamplesStored)

/-- An application without a capacity of its own has the default one. -/
theorem Settings.maxSamplesStored_forApp (settings : Settings) (app : String) :
    (settings.forApp app).maxSamplesStored =
      (settings.ownCapacity? app).getD settings.transactionEvents.maxSamplesStored := by
  rw [forApp, ownCapacity?]
  cases settings.apps.get? app <;> rfl

end Telemetry.Config

namespace Telemetry.Events

open Sampling (HasPriority)
open Config (EventSettings)

variable {E P S : Type}

/-! ### Directives -/

/-- What the settings of a service are changed by. -/
inductive Directive
  | change (c : ConfigChange)
  | setCapacity (n : Nat)

namespace Directive

/-- The file that a directive loads. -/
def reloaded? : Directive → Option Config.Settings
  | .change (.reloaded settings) => some settings
  | _ => none

/-- The settings that a directive pushes for an application. -/
def pushes? (app : String) : Directive → Option EventSettings
  | .change (.app app' settings) => if app' = app then some settings else none
  | _ => none

/-- The default capacity that a directive sets. -/
def capacity? : Directive → Option Nat
  | .setCapacity n => some n
  | _ => none

/-- What directives said last, of one sort. -/
def latest? {α : Type} (f : Directive → Option α) (history : List Directive) : Option α :=
  history.reverse.findSome? f

/-- The file that is loaded after some directives. -/
def loaded (initial : Config.Settings) (history : List Directive) : Config.Settings :=
  (latest? reloaded? history).getD initial

/-- The settings that have been pushed for an application. -/
def pushedFor? (app : String) (history : List Directive) : Option EventSettings :=
  latest? (pushes? app) history

/-- The default capacity after some directives. It begins with that of the first file. -/
def capacity (initial : Config.Settings) (history : List Directive) : Nat :=
  (latest? capacity? history).getD initial.transactionEvents.maxSamplesStored

/-- **The settings of an application after some directives**: what was pushed for it last, whatever
has been loaded since; else what the loaded file says, but for the default capacity. -/
def resolve (initial : Config.Settings) (history : List Directive) (app : String) :
    EventSettings :=
  let file := loaded initial history
  (pushedFor? app history).getD
    { file.forApp app with
      maxSamplesStored := (file.ownCapacity? app).getD (capacity initial history) }

section Latest

variable {α : Type} {f : Directive → Option α} {history : List Directive} {d : Directive}
  {initial : Config.Settings} {app : String}

theorem latest?_concat : latest? f (history ++ [d]) = (f d).or (latest? f history) := by
  rw [latest?, latest?, List.reverse_append, List.findSome?_append]
  cases hd : f d <;> simp [hd]

theorem latest?_eq_none_iff : latest? f history = none ↔ ∀ d ∈ history, f d = none := by
  rw [latest?, List.findSome?_eq_none_iff]
  simp only [List.mem_reverse]

theorem loaded_concat :
    loaded initial (history ++ [d]) = (d.reloaded?).getD (loaded initial history) := by
  rw [loaded, latest?_concat]
  cases d.reloaded? <;> rfl

theorem pushedFor?_concat :
    pushedFor? app (history ++ [d]) = (d.pushes? app).or (pushedFor? app history) :=
  latest?_concat

theorem capacity_concat :
    capacity initial (history ++ [d]) = (d.capacity?).getD (capacity initial history) := by
  rw [capacity, latest?_concat]
  cases d.capacity? <;> rfl

/-- Nothing but a new capacity changes the capacity. -/
theorem capacity_of_forall_notMem (h : ∀ n, .setCapacity n ∉ history) :
    capacity initial history = initial.transactionEvents.maxSamplesStored := by
  have hnone : latest? capacity? history = none := by
    refine latest?_eq_none_iff.2 fun d hd => ?_
    cases d with
    | change c => rfl
    | setCapacity n => exact absurd hd (h n)
  rw [capacity, hnone, Option.getD_none]

end Latest

end Directive

/-! ### The service -/

open Directive (loaded pushedFor? capacity resolve)

namespace Service

/-- What the settings are resolved from is as before. -/
structure SameSources (s s' : Service E) : Prop where
  settings : s'.settings = s.settings
  pushed : s'.pushed = s.pushed
  maxSamplesStored : s'.maxSamplesStored = s.maxSamplesStored

/-- Follows a directive. -/
def follow (s : Service E) : Directive → Service E
  | .change c => (s.change c).1
  | .setCapacity n => (s.setCapacity n).1

/-- **What a service keeps is what it was told.** -/
structure Follows (initial : Config.Settings) (history : List Directive) (s : Service E) : Prop where
  settings : s.settings = loaded initial history
  pushed : ∀ app, s.pushed.get? app = pushedFor? app history
  maxSamplesStored : s.maxSamplesStored = capacity initial history

variable {s s' s'' : Service E} {initial : Config.Settings} {history : List Directive}

theorem SameSources.refl (s : Service E) : s.SameSources s := ⟨rfl, rfl, rfl⟩

theorem SameSources.trans (h : s.SameSources s') (h' : s'.SameSources s'') : s.SameSources s'' :=
  ⟨h'.settings.trans h.settings, h'.pushed.trans h.pushed,
    h'.maxSamplesStored.trans h.maxSamplesStored⟩

theorem SameSettings.sources (h : s.SameSettings s') : s.SameSources s' :=
  ⟨h.settings, h.pushed, h.maxSamplesStored⟩

/-- Nothing else goes into the settings of an application. -/
theorem SameSources.appSettings (h : s.SameSources s') (app : String) :
    s'.appSettings app = s.appSettings app := by
  unfold Service.appSettings
  rw [h.pushed, h.settings, h.maxSamplesStored]

/-- **No errand changes where the settings come from.** -/
theorem Errand.sources {app : String} (h : s.Errand app s') : s.SameSources s' := by
  cases h with
  | askEnabled =>
    rw [Service.askEnabled]
    split
    · exact .refl s
    · exact ⟨rfl, rfl, rfl⟩
  | internAt version name => exact (s.sameSettings_internAt version name).sources
  | getOrCreate kind => exact (s.sameSettings_getOrCreate kind app).sources
  | swapOut kind => exact (s.sameSettings_swapOut kind app).sources
  | modify => exact ⟨rfl, rfl, rfl⟩
  | removeOrdinary => exact ⟨rfl, rfl, rfl⟩
  | backlog => exact ⟨rfl, rfl, rfl⟩

theorem Errands.sources {app : String} (h : s.Errands app s') (hs : s.Sound 0) :
    s.SameSources s' :=
  h.preserves hs SameSources.refl SameSources.trans fun _ herrand => herrand.sources

theorem Follows.same (h : s.Follows initial history) (hsame : s.SameSources s') :
    s'.Follows initial history := by
  refine ⟨hsame.settings.trans h.settings, fun app => ?_,
    hsame.maxSamplesStored.trans h.maxSamplesStored⟩
  rw [hsame.pushed]
  exact h.pushed app

theorem pushed_change_app (s : Service E) (app : String) (settings : EventSettings) :
    (s.change (.app app settings)).1.pushed = s.pushed.insert app settings := by
  obtain ⟨_ | _, capacity, target⟩ := settings <;> rfl

theorem settings_change_app (s : Service E) (app : String) (settings : EventSettings) :
    (s.change (.app app settings)).1.settings = s.settings := by
  obtain ⟨_ | _, capacity, target⟩ := settings <;> rfl

theorem maxSamplesStored_change_app (s : Service E) (app : String) (settings : EventSettings) :
    (s.change (.app app settings)).1.maxSamplesStored = s.maxSamplesStored := by
  obtain ⟨_ | _, capacity, target⟩ := settings <;> rfl

theorem maxSamplesStored_setCapacity (s : Service E) (n : Nat) :
    (s.setCapacity n).1.maxSamplesStored = n := by
  rw [setCapacity]
  split
  next heq => exact heq
  next => rfl

theorem settings_setCapacity (s : Service E) (n : Nat) :
    (s.setCapacity n).1.settings = s.settings := by
  rw [setCapacity]
  split <;> rfl

theorem pushed_setCapacity (s : Service E) (n : Nat) :
    (s.setCapacity n).1.pushed = s.pushed := by
  rw [setCapacity]
  split <;> rfl

theorem follows_create (initial : Config.Settings) :
    (create initial : Service E × List (Note E)).1.Follows initial [] :=
  ⟨rfl, fun _ => rfl, rfl⟩

/-- **A directive is taken up**, and the others go on to hold. -/
theorem Follows.follow (h : s.Follows initial history) (d : Directive) :
    (s.follow d).Follows initial (history ++ [d]) := by
  have hsame : ∀ app, d.pushes? app = none →
      pushedFor? app (history ++ [d]) = s.pushed.get? app := fun app hnone => by
    rw [Directive.pushedFor?_concat, hnone, Option.none_or, h.pushed]
  rcases d with (⟨app', settings⟩ | settings) | n
  · refine ⟨?_, fun app => ?_, ?_⟩
    · rw [Directive.loaded_concat]
      exact (s.settings_change_app app' settings).trans h.settings
    · change (s.change (.app app' settings)).1.pushed.get? app = _
      rw [pushed_change_app, Dict.get?_insert]
      by_cases happ : app = app'
      · subst happ
        rw [if_pos rfl, Directive.pushedFor?_concat, Directive.pushes?, if_pos rfl]
        rfl
      · rw [if_neg happ, hsame app (if_neg (Ne.symm happ))]
    · rw [Directive.capacity_concat]
      exact (s.maxSamplesStored_change_app app' settings).trans h.maxSamplesStored
  · refine ⟨?_, fun app => (hsame app rfl).symm, ?_⟩
    · rw [Directive.loaded_concat]
      rfl
    · rw [Directive.capacity_concat]
      exact h.maxSamplesStored
  · refine ⟨?_, fun app => ?_, ?_⟩
    · rw [Directive.loaded_concat]
      exact (s.settings_setCapacity n).trans h.settings
    · change (s.setCapacity n).1.pushed.get? app = _
      rw [pushed_setCapacity, hsame app rfl]
    · rw [Directive.capacity_concat]
      exact s.maxSamplesStored_setCapacity n

/-- **The settings of an application** are resolved from what the service was told. -/
theorem Follows.appSettings (h : s.Follows initial history) (app : String) :
    s.appSettings app = resolve initial history app := by
  rw [Service.appSettings, resolve, h.pushed, h.settings, h.maxSamplesStored]
  cases pushedFor? app history with
  | some settings => rfl
  | none =>
    simp only [Config.Settings.forApp, Config.Settings.ownCapacity?, Option.getD_none]
    cases (loaded initial history).apps.get? app <;> rfl

end Service

/-! ### Runs -/

/-- The directive that a step is. -/
def Step.directive? : Step E P → Option Directive
  | .change c => some (.change c)
  | .setCapacity n => some (.setCapacity n)
  | _ => none

/-- The directive that a frame starts when it is resumed. -/
def Frame.directive? : Frame E P → Option Directive
  | .steps (s :: _) => s.directive?
  | _ => none

namespace Run

/-- The directive that the next step of a run starts. -/
def directive? (r : Run E P S) : Option Directive := r.stack.head?.bind Frame.directive?

/-- The directives among a number of steps, earliest first. -/
def directives [HasPriority E] (observer : Observer E P S) : Nat → Run E P S → List Directive
  | 0, _ => []
  | n + 1, r =>
    match r.step observer with
    | none => []
    | some r' => r.directive?.toList ++ directives observer n r'

section Steps

variable {r r' : Run E Empty Unit} {initial : Config.Settings} {history : List Directive}

/-- What a step makes of the settings, be it for an application or for all. -/
theorem sources_start (hs : r.service.Sound 0) (s : Step E Empty) :
    (s.directive?.elim r.service r.service.follow).SameSources
      (r.start (.idle E) s).service := by
  have hcall : ∀ app, s.Concerns (fun _ => True) app →
      r.service.SameSources (r.start (.idle E) s).service :=
    fun app hconcerns => (r.attends_start hs hconcerns).errands.sources hs
  cases s with
  | recordWith app work onAsk onBuild onPriority =>
    exact hcall app ⟨rfl, fun _ _ => trivial, fun _ _ => trivial, fun _ _ _ _ => trivial⟩
  | recordDrawn app make => exact hcall app rfl
  | drawPriority app => exact hcall app rfl
  | harvest app => exact hcall app rfl
  | getOrCreate app => exact hcall app rfl
  | askEnabled app => exact hcall app rfl
  | background steps => exact hcall "" fun _ _ => trivial
  | change c =>
    change Service.SameSources (r.service.change c).1 (r.absorb _).service
    rw [absorb_service]
    exact .refl _
  | setCapacity n =>
    change Service.SameSources (r.service.setCapacity n).1 (r.absorb _).service
    rw [absorb_service]
    exact .refl _
  | clear => exact ⟨rfl, rfl, rfl⟩
  | shutDown =>
    change Service.SameSources r.service (r.absorb _).service
    rw [absorb_service]
    exact ⟨rfl, rfl, rfl⟩
  | probe p => exact p.elim

/-- Every frame but a list of steps goes on for some application. -/
theorem exists_isFor (f : Frame E Empty) : ∃ app, f.IsFor (fun _ => True) app := by
  cases f with
  | steps rest => exact ⟨"", fun _ _ => trivial⟩
  | foreground wasBackground => exact ⟨"", trivial⟩
  | asked app job => exact ⟨app, rfl, fun _ _ _ _ => trivial, fun _ _ _ _ => trivial⟩
  | compete kind app job => exact ⟨app, rfl, fun _ _ _ _ => trivial, fun _ _ _ _ => trivial⟩
  | built app job _ _ => exact ⟨app, rfl, fun _ _ _ _ => trivial, fun _ _ _ _ => trivial⟩
  | offer kind app job _ => exact ⟨app, rfl, fun _ _ _ _ => trivial, fun _ _ _ _ => trivial⟩
  | drain app _ => exact ⟨app, rfl⟩
  | settleSynthetic app _ _ => exact ⟨app, rfl⟩
  | ordinary app => exact ⟨app, rfl⟩
  | settleOrdinary app _ => exact ⟨app, rfl⟩

variable [HasPriority E]

/-- **A step of a run** follows a directive, or leaves the settings as they are. -/
theorem sources_step (h : r.IsProper) (hstep : r.step (.idle E) = some r') :
    (r.directive?.elim r.service r.service.follow).SameSources r'.service := by
  have hs : r.service.Sound 0 := h.sound.service.mono (Multiset.zero_le _)
  obtain ⟨f, rest, hstack, hcases⟩ := h.step_cases hstep
  rw [directive?, hstack]
  rcases hcases with ⟨rfl, rfl⟩ | ⟨s, later, rfl, rfl⟩ | ⟨hother, hattends⟩
  · exact .refl _
  · exact sources_start (r := push { r with stack := rest } (.steps later)) hs s
  · obtain ⟨app, hfor⟩ := exists_isFor f
    have hnone : f.directive? = none := by
      cases f with
      | steps steps => exact absurd rfl (hother steps)
      | _ => rfl
    change (f.directive?.elim r.service r.service.follow).SameSources _
    rw [hnone]
    exact (hattends hfor).errands.sources hs

/-- **What a run keeps is what it has been told.** -/
theorem follows_advance (h : r.IsProper) (hfollows : r.service.Follows initial history) (n : Nat) :
    (r.advance (.idle E) n).service.Follows initial
      (history ++ r.directives (.idle E) n) := by
  induction n generalizing r history with
  | zero => rwa [directives, List.append_nil, advance]
  | succ n ih =>
    cases hstep : r.step (.idle E) with
    | none => rwa [advance_succ_of_none hstep, directives, hstep, List.append_nil]
    | some r' =>
      rw [advance_succ_of_some hstep, directives, hstep, ← List.append_assoc]
      refine ih (h.step hstep) ?_
      have hsources := sources_step h hstep
      cases hdirective : r.directive? with
      | none =>
        rw [hdirective] at hsources
        rw [Option.toList_none, List.append_nil]
        exact hfollows.same hsources
      | some d =>
        rw [hdirective] at hsources
        exact (hfollows.follow d).same hsources

theorem follows_fresh (initial : Config.Settings) (transport : Transport E Empty)
    (steps : List (Step E Empty)) (random : Random.Source) (n : Nat) :
    ((fresh initial transport steps random).advance (.idle E) n).service.Follows initial
      ((fresh initial transport steps random).directives (.idle E) n) :=
  follows_advance (isProper_fresh initial transport steps random)
    (Service.follows_create initial) n

/-- **When the service and the loaded file agree** about an application that nothing has been
pushed for, as long as no default capacity has been set: what the file says is taken up but for
the default capacity, which is that of the first file. So they agree exactly if the file has a
capacity for the application of its own, or the same default as the first one. -/
theorem appSettings_eq_forApp_iff (initial : Config.Settings) (transport : Transport E Empty)
    (steps : List (Step E Empty)) (random : Random.Source) (n : Nat) (app : String)
    (hcapacity : ∀ k, .setCapacity k ∉
      (fresh initial transport steps random).directives (.idle E) n)
    (hpushed : pushedFor? app
      ((fresh initial transport steps random).directives (.idle E) n) = none) :
    let s := ((fresh initial transport steps random).advance (.idle E) n).service
    let file := loaded initial ((fresh initial transport steps random).directives (.idle E) n)
    let capacity := (file.ownCapacity? app).getD initial.transactionEvents.maxSamplesStored
    s.settings = file ∧
      s.appSettings app = { file.forApp app with maxSamplesStored := capacity } ∧
      (s.appSettings app = file.forApp app ↔ (file.ownCapacity? app).isSome ∨
        file.transactionEvents.maxSamplesStored = initial.transactionEvents.maxSamplesStored) ∧
      ∀ decidedLast, s.freshReservoir .ordinary app decidedLast =
        .empty app Kind.ordinary.service capacity decidedLast
          (file.forApp app).targetSamplesStored := by
  intro s file capacity
  have hfollows := follows_fresh initial transport steps random n
  have hsettings : s.appSettings app = { file.forApp app with maxSamplesStored := capacity } := by
    rw [hfollows.appSettings, resolve, hpushed, Directive.capacity_of_forall_notMem hcapacity]
    rfl
  refine ⟨hfollows.settings, hsettings, ?_, fun decidedLast => ?_⟩
  · have hfile := file.maxSamplesStored_forApp app
    rw [hsettings]
    constructor
    · intro heq
      have hsame : capacity = _ := (congrArg EventSettings.maxSamplesStored heq).trans hfile
      cases hown : file.ownCapacity? app with
      | some k => exact .inl rfl
      | none =>
        simp only [capacity, hown, Option.getD_none] at hsame
        exact .inr hsame.symm
    · intro hagree
      have hsame : capacity = (file.forApp app).maxSamplesStored := by
        rw [hfile]
        rcases hagree with hown | hdefault
        · obtain ⟨k, hk⟩ := Option.isSome_iff_exists.1 hown
          simp only [capacity, hk, Option.getD_some]
        · simp only [capacity, hdefault]
      rw [hsame]
  · rw [Service.freshReservoir]
    simp only [hsettings]

end Steps

open Simulation (Event) in
/-- An application that another one is pushed settings beside, and whose capacity is in the file
that is loaded then. -/
theorem appSettings_eq_forApp_own :
    let file : Config.Settings :=
      { transactionEvents := { maxSamplesStored := 5, targetSamplesStored := 3 }
        apps := Dict.empty.insert "a" { maxSamplesStored := some 7 } }
    let s := ((fresh {} {} [.change (.app "b" {}), .change (.reloaded file)] (.ofSeed 0)).advance
      (.idle Event) 3).service
    s.appSettings "a" = file.forApp "a" := by
  intro file s
  have hheard : (fresh {} {} [.change (.app "b" {}), .change (.reloaded file)]
      (.ofSeed 0)).directives (.idle Event) 3 =
        [.change (.app "b" {}), .change (.reloaded file)] := rfl
  refine (appSettings_eq_forApp_iff {} {} _ (.ofSeed 0) 3 "a" ?_ ?_).2.2.1.2 (.inl ?_)
  · rw [hheard]
    simp
  · rw [hheard]
    decide
  · rw [hheard]
    decide

open Simulation (Event) in
/-- **A file that is loaded again** does not change the default capacity, so an application without
one of its own goes on with that of the first file. -/
theorem appSettings_ne_forApp_reloaded :
    let file : Config.Settings := { transactionEvents := { maxSamplesStored := 5 } }
    let r := (fresh {} {} [.change (.reloaded file)] (.ofSeed 0)).advance (.idle Event) 2
    r.stack.isEmpty ∧ r.service.pushed.get? "a" = none ∧
      (r.service.settings.forApp "a").maxSamplesStored = 5 ∧
      (r.service.appSettings "a").maxSamplesStored = 2000 ∧
      (r.service.freshReservoir .ordinary "a" 0).capacity = 2000 ∧
      r.service.appSettings "a" ≠ r.service.settings.forApp "a" := by
  decide +kernel

end Run

end Telemetry.Events
