import Telemetry.Events.Service
import Telemetry.Proofs.Events.Store
import Telemetry.Proofs.Sampling.Reservoir

/-!
# What the operations of a service change

A service has two halves that most operations do not touch both of: its reservoirs – the
pool, which of them are live, and which wait – and its settings. `SameReservoirs` and
`SameSettings` say that one of the halves is as before.

Of the operations on reservoirs, each changes one reservoir, or adds one:

| operation | what changes |
|---|---|
| `Service.modify` | the reservoir it is told (`Service.reservoir_modify`) |
| `Service.install`, `Service.getOrCreate` | a new, empty reservoir is live |
| `Service.swapOut` | the same, and the one that was live before is sealed |
| `Service.mergeInto` | the source is drained, the target takes over |
| `Service.change`, `Service.removeOrdinary`, `Service.shutDown` | some cease to be live |

A reservoir keeps its place and its shell for good, which is `Service.Grows`; and a sealed
one keeps everything, except those that an operation empties.
-/

namespace Telemetry.Events

open Sampling (Reservoir Offer)

namespace Service

variable {E : Type}

/-! ### The two halves -/

/-- Nothing happened to the reservoirs. -/
structure SameReservoirs (s s' : Service E) : Prop where
  pool : s'.pool = s.pool
  live : s'.live = s.live
  queue : s'.backlog.queue = s.backlog.queue

/-- Nothing happened to the settings, or to what was decided under them. -/
structure SameSettings (s s' : Service E) : Prop where
  enabled : s'.enabled = s.enabled
  isShutDown : s'.isShutDown = s.isShutDown
  settings : s'.settings = s.settings
  pushed : s'.pushed = s.pushed
  maxSamplesStored : s'.maxSamplesStored = s.maxSamplesStored
  memo : s'.memo = s.memo
  generation : s'.generation = s.generation
  capacity : s'.backlog.capacity = s.backlog.capacity

theorem SameReservoirs.refl (s : Service E) : s.SameReservoirs s := ⟨rfl, rfl, rfl⟩

theorem SameReservoirs.trans {s s' s'' : Service E} (h : s.SameReservoirs s')
    (h' : s'.SameReservoirs s'') : s.SameReservoirs s'' :=
  ⟨h'.pool.trans h.pool, h'.live.trans h.live, h'.queue.trans h.queue⟩

theorem SameSettings.refl (s : Service E) : s.SameSettings s :=
  ⟨rfl, rfl, rfl, rfl, rfl, rfl, rfl, rfl⟩

section Same

variable {s s' : Service E}

theorem SameReservoirs.reservoir (h : s.SameReservoirs s') (ref : Ref) :
    s'.reservoir ref = s.reservoir ref := by
  rw [Service.reservoir, Service.reservoir, h.pool]

theorem SameReservoirs.liveRef? (h : s.SameReservoirs s') (kind : Kind) (app : String) :
    s'.liveRef? kind app = s.liveRef? kind app := by
  change s'.live.get? kind app = s.live.get? kind app
  rw [h.live]

theorem SameSettings.isActive (h : s.SameSettings s') : s'.isActive = s.isActive := by
  rw [Service.isActive, Service.isActive, h.enabled, h.isShutDown]

theorem SameSettings.appSettings (h : s.SameSettings s') (app : String) :
    s'.appSettings app = s.appSettings app := by
  unfold Service.appSettings
  rw [h.pushed, h.settings, h.maxSamplesStored]

theorem SameSettings.freshReservoir (h : s.SameSettings s') (kind : Kind) (app : String)
    (decidedLast : Nat) : s'.freshReservoir kind app decidedLast =
      s.freshReservoir kind app decidedLast := by
  unfold Service.freshReservoir
  rw [h.appSettings, h.settings]

theorem SameSettings.remembered? (h : s.SameSettings s') (app : String) :
    s'.remembered? app = s.remembered? app := by
  unfold Service.remembered?
  rw [h.memo, h.generation]

end Same

theorem sameReservoirs_askEnabled (s : Service E) (app : String) :
    s.SameReservoirs (s.askEnabled app).2 := by
  rw [askEnabled]
  split
  · exact .refl s
  · exact ⟨rfl, rfl, rfl⟩

theorem sameReservoirs_setCapacity (s : Service E) (n : Nat) :
    s.SameReservoirs (s.setCapacity n).1 := by
  rw [setCapacity]
  split
  · exact .refl s
  · exact ⟨rfl, rfl, rfl⟩

theorem sameReservoirs_internAt (s : Service E) (version : Nat) (name : String) :
    s.SameReservoirs (s.internAt version name) := by
  rw [internAt]
  split
  · exact ⟨rfl, rfl, rfl⟩
  · exact .refl s

theorem sameSettings_internAt (s : Service E) (version : Nat) (name : String) :
    s.SameSettings (s.internAt version name) := by
  rw [internAt]
  split
  · exact ⟨rfl, rfl, rfl, rfl, rfl, rfl, rfl, rfl⟩
  · exact .refl s

theorem sameSettings_modify (s : Service E) (ref : Ref) (f : Reservoir E → Reservoir E) :
    s.SameSettings (s.modify ref f) :=
  ⟨rfl, rfl, rfl, rfl, rfl, rfl, rfl, rfl⟩

theorem sameSettings_install (s : Service E) (kind : Kind) (app : String) (decidedLast : Nat) :
    s.SameSettings (s.install kind app decidedLast).2 :=
  ⟨rfl, rfl, rfl, rfl, rfl, rfl, rfl, rfl⟩

theorem sameSettings_getOrCreate (s : Service E) (kind : Kind) (app : String) :
    s.SameSettings (s.getOrCreate kind app).2 := by
  rw [getOrCreate]
  split
  · exact .refl s
  · exact s.sameSettings_install kind app 0

theorem sameSettings_swapOut (s : Service E) (kind : Kind) (app : String) :
    s.SameSettings (s.swapOut kind app).2 := by
  rw [swapOut]
  cases s.liveRef? kind app <;> exact ⟨rfl, rfl, rfl, rfl, rfl, rfl, rfl, rfl⟩

theorem sameSettings_mergeInto (s : Service E) (target source : Ref) :
    s.SameSettings (s.mergeInto target source) := by
  rw [mergeInto]
  split
  · exact .refl s
  · exact ⟨rfl, rfl, rfl, rfl, rfl, rfl, rfl, rfl⟩

theorem sameSettings_removeOrdinary (s : Service E) (app : String) :
    s.SameSettings (s.removeOrdinary app) :=
  ⟨rfl, rfl, rfl, rfl, rfl, rfl, rfl, rfl⟩

/-! ### Whether events are collected -/

theorem remembered?_memoize (s : Service E) (app app' : String) (decision : Bool) :
    (s.memoize app s.generation decision).remembered? app' =
      if app' = app then some decision else s.remembered? app' := by
  unfold remembered? memoize
  by_cases happ : app' = app
  · simp [happ]
  · simp [happ]

/-- An application is collected that is enabled, and not remembered to be disabled. -/
theorem fst_askEnabled (s : Service E) {app : String} (henabled : (s.appSettings app).enabled)
    (hremembered : s.remembered? app ≠ some false) : (s.askEnabled app).1 = true := by
  rw [askEnabled]
  split
  next decision hd =>
    cases decision with
    | true => rfl
    | false => exact absurd hd hremembered
  next => exact henabled

/-- Asking makes no one remember that an enabled application is disabled. -/
theorem remembered?_askEnabled (s : Service E) {app : String}
    (henabled : (s.appSettings app).enabled) (hremembered : s.remembered? app ≠ some false)
    (app' : String) : (s.askEnabled app').2.remembered? app ≠ some false := by
  rw [askEnabled]
  split
  · exact hremembered
  · change (s.memoize app' s.generation _).remembered? app ≠ some false
    rw [remembered?_memoize]
    split
    next heq =>
      subst heq
      rw [henabled]
      exact fun hcon => nomatch hcon
    next => exact hremembered

/-- A new service goes by the file. -/
theorem appSettings_create (settings : Config.Settings) (app : String) :
    (Service.create settings : Service E × List (Note E)).1.appSettings app =
      settings.forApp app := by
  simp only [appSettings, Config.Settings.forApp, Service.create]
  cases settings.apps.get? app <;> rfl

/-! ### One reservoir changes -/

@[simp] theorem size_modify (s : Service E) (ref : Ref) (f : Reservoir E → Reservoir E) :
    (s.modify ref f).pool.size = s.pool.size := by
  simp [modify]

@[simp] theorem live_modify (s : Service E) (ref : Ref) (f : Reservoir E → Reservoir E) :
    (s.modify ref f).live = s.live := rfl

@[simp] theorem backlog_modify (s : Service E) (ref : Ref) (f : Reservoir E → Reservoir E) :
    (s.modify ref f).backlog = s.backlog := rfl

theorem reservoir_modify_self {s : Service E} {ref : Ref} (h : ref < s.pool.size)
    (f : Reservoir E → Reservoir E) : (s.modify ref f).reservoir ref = f (s.reservoir ref) := by
  simp [reservoir, modify, Array.getElem_modify, h]

theorem reservoir_modify_of_ne (s : Service E) {ref ref' : Ref} (h : ref' ≠ ref)
    (f : Reservoir E → Reservoir E) : (s.modify ref f).reservoir ref' = s.reservoir ref' := by
  simp [reservoir, modify, Array.getElem?_modify, Ne.symm h]

/-- Beyond the pool there is nothing. -/
theorem reservoir_of_size_le {s : Service E} {ref : Ref} (h : s.pool.size ≤ ref) :
    s.reservoir ref = default := by
  rw [reservoir, Array.getD_eq_getD_getElem?, Array.getElem?_eq_none h]
  rfl

/-- Two changes that agree on a reservoir are the same change of it. -/
theorem modify_congr (s : Service E) (ref : Ref) {f g : Reservoir E → Reservoir E}
    (h : f (s.reservoir ref) = g (s.reservoir ref)) : s.modify ref f = s.modify ref g := by
  have hpool : s.pool.modify ref f = s.pool.modify ref g := by
    refine Array.ext (by rw [Array.size_modify, Array.size_modify]) fun i hi hi' => ?_
    rw [Array.size_modify] at hi
    rw [Array.getElem_modify, Array.getElem_modify]
    split
    next heq =>
      subst heq
      rwa [reservoir, Array.getD_eq_getD_getElem?, Array.getElem?_eq_getElem hi] at h
    next => rfl
  rw [modify, modify, hpool]

/-! ### A reservoir is made -/

@[simp] theorem install_fst (s : Service E) (kind : Kind) (app : String) (decidedLast : Nat) :
    (s.install kind app decidedLast).1 = s.pool.size := rfl

@[simp] theorem size_install (s : Service E) (kind : Kind) (app : String) (decidedLast : Nat) :
    (s.install kind app decidedLast).2.pool.size = s.pool.size + 1 := by
  simp [install]

@[simp] theorem backlog_install (s : Service E) (kind : Kind) (app : String) (decidedLast : Nat) :
    (s.install kind app decidedLast).2.backlog = s.backlog := rfl

theorem reservoir_install_self (s : Service E) (kind : Kind) (app : String) (decidedLast : Nat) :
    (s.install kind app decidedLast).2.reservoir s.pool.size =
      s.freshReservoir kind app decidedLast := by
  simp [reservoir, install]

theorem reservoir_install {s : Service E} {ref : Ref} (h : ref < s.pool.size) (kind : Kind)
    (app : String) (decidedLast : Nat) :
    (s.install kind app decidedLast).2.reservoir ref = s.reservoir ref := by
  simp [reservoir, install, Array.getElem?_push, Nat.ne_of_lt h]

theorem liveRef?_install (s : Service E) (kind kind' : Kind) (app app' : String)
    (decidedLast : Nat) :
    (s.install kind app decidedLast).2.liveRef? kind' app' =
      if kind' = kind ∧ app' = app then some s.pool.size else s.liveRef? kind' app' :=
  Store.get?_set ..

theorem getOrCreate_of_some {s : Service E} {kind : Kind} {app : String} {ref : Ref}
    (h : s.liveRef? kind app = some ref) : s.getOrCreate kind app = (ref, s) := by
  rw [getOrCreate, h]

theorem getOrCreate_of_none {s : Service E} {kind : Kind} {app : String}
    (h : s.liveRef? kind app = none) : s.getOrCreate kind app = s.install kind app 0 := by
  rw [getOrCreate, h]

theorem backlog_getOrCreate (s : Service E) (kind : Kind) (app : String) :
    (s.getOrCreate kind app).2.backlog = s.backlog := by
  cases hlive : s.liveRef? kind app with
  | none => rw [getOrCreate_of_none hlive, backlog_install]
  | some ref => rw [getOrCreate_of_some hlive]

theorem swapOut_fst (s : Service E) (kind : Kind) (app : String) :
    (s.swapOut kind app).1 = s.liveRef? kind app := by
  rw [swapOut]
  cases s.liveRef? kind app <;> rfl

/-- The reservoir that a swap brings back is sealed, and the others are kept. -/
theorem swapOut_snd_of_some {s : Service E} {kind : Kind} {app : String} {ref : Ref}
    (h : s.liveRef? kind app = some ref) :
    (s.swapOut kind app).2 =
      (s.install kind app (s.liveTries kind app)).2.modify ref (·.sealed) := by
  rw [swapOut]
  rw [h]

theorem swapOut_snd_of_none {s : Service E} {kind : Kind} {app : String}
    (h : s.liveRef? kind app = none) :
    (s.swapOut kind app).2 = (s.install kind app (s.liveTries kind app)).2 := by
  rw [swapOut]
  rw [h]

theorem backlog_swapOut (s : Service E) (kind : Kind) (app : String) :
    (s.swapOut kind app).2.backlog = s.backlog := by
  cases hlive : s.liveRef? kind app with
  | none => rw [swapOut_snd_of_none hlive, backlog_install]
  | some ref => rw [swapOut_snd_of_some hlive, backlog_modify, backlog_install]

/-- The target of a merge takes over what the source holds. -/
theorem reservoir_mergeInto_self {s : Service E} {target source : Ref}
    (hlt : target < s.pool.size) (hne : target ≠ source) :
    (s.mergeInto target source).reservoir target =
      (s.reservoir target).merge (s.reservoir source) := by
  rw [mergeInto, if_neg hne, reservoir_modify_self, reservoir_modify_of_ne _ hne]
  rwa [size_modify]

theorem backlog_mergeInto (s : Service E) (target source : Ref) :
    (s.mergeInto target source).backlog = s.backlog := by
  rw [mergeInto]
  split <;> rfl

/-! ### Reservoirs cease to be live -/

/-- The reservoirs are as before, except that some are not live any more. -/
structure Retires (s s' : Service E) : Prop where
  pool : s'.pool = s.pool
  queue : s'.backlog.queue = s.backlog.queue
  all_le : s'.live.all ≤ s.live.all
  live : ∀ {kind app ref}, s'.liveRef? kind app = some ref → s.liveRef? kind app = some ref

theorem retires_removeOrdinary (s : Service E) (app : String) :
    s.Retires (s.removeOrdinary app) where
  pool := rfl
  queue := rfl
  all_le := Store.all_remove_le _ _ _
  live {kind app' ref} hr := by
    change (s.live.remove .ordinary app).get? kind app' = some ref at hr
    rw [Store.get?_remove] at hr
    split at hr
    · nomatch hr
    · exact hr

theorem retires_clearOrdinary (s : Service E) : s.Retires s.clearOrdinary where
  pool := rfl
  queue := rfl
  all_le := Store.all_clear_le _ _
  live {kind app ref} hr := by
    change (s.live.clear .ordinary).get? kind app = some ref at hr
    rw [Store.get?_clear] at hr
    split at hr
    · nomatch hr
    · exact hr

theorem retires_shutDown (s : Service E) : s.Retires s.shutDown.1 :=
  ⟨rfl, rfl, s.retires_clearOrdinary.all_le, s.retires_clearOrdinary.live⟩

/-- A reload takes away the live ordinary reservoirs of disabled applications. -/
theorem ordinary_reloaded (s : Service E) (settings : Config.Settings) :
    (s.change (.reloaded settings)).1.live.ordinary =
      s.live.ordinary.filter fun app _ =>
        ((s.change (.reloaded settings)).1.appSettings app).enabled := rfl

theorem retires_change (s : Service E) (c : ConfigChange) : s.Retires (s.change c).1 := by
  cases c with
  | app app settings =>
    cases hon : settings.enabled with
    | true =>
      have hlive : (s.change (.app app settings)).1.live = s.live := by
        simp only [change, hon, if_true]
      refine ⟨?_, ?_, le_of_eq (congrArg Store.all hlive), fun {kind app' ref} hr => ?_⟩
      · simp only [change, hon, if_true]
      · simp only [change, hon, if_true]
      · rwa [liveRef?, hlive] at hr
    | false =>
      have hlive : (s.change (.app app settings)).1.live = s.live.remove .ordinary app := by
        simp only [change, hon, Bool.false_eq_true, if_false]
      refine ⟨?_, ?_, ?_, fun {kind app' ref} hr => ?_⟩
      · simp only [change, hon, Bool.false_eq_true, if_false]
      · simp only [change, hon, Bool.false_eq_true, if_false]
      · rw [hlive]
        exact Store.all_remove_le _ _ _
      · rw [liveRef?, hlive] at hr
        exact (s.retires_removeOrdinary app).live hr
  | reloaded settings =>
    refine ⟨rfl, rfl, add_le_add (s.live.ordinary.values_filter_le _) le_rfl,
      fun {kind app ref} hr => ?_⟩
    cases kind with
    | synthetic => exact hr
    | ordinary =>
      change (s.change (.reloaded settings)).1.live.ordinary.get? app = some ref at hr
      rw [ordinary_reloaded, Dict.get?_filter] at hr
      exact (Option.filter_eq_some_iff.1 hr).1

/-! ### Reservoirs keep their place -/

/-- **What happened to the reservoirs so far**: some were made, and those there were kept
their shell. A sealed one stays sealed and keeps everything, unless it is one of those that
are `spent`. -/
structure Grows (spent : Ref → Prop) (s s' : Service E) : Prop where
  size : s.pool.size ≤ s'.pool.size
  shell : ∀ ref < s.pool.size, (s'.reservoir ref).shell = (s.reservoir ref).shell
  isSealed : ∀ ref < s.pool.size, (s.reservoir ref).isSealed → (s'.reservoir ref).isSealed
  frozen : ∀ ref < s.pool.size, (s.reservoir ref).isSealed → ¬ spent ref →
    s'.reservoir ref = s.reservoir ref

theorem Grows.refl (spent : Ref → Prop) (s : Service E) : Grows spent s s :=
  ⟨Nat.le_refl _, fun _ _ => rfl, fun _ _ h => h, fun _ _ _ _ => rfl⟩

theorem Grows.trans {spent : Ref → Prop} {s s' s'' : Service E} (h : Grows spent s s')
    (h' : Grows spent s' s'') : Grows spent s s'' where
  size := Nat.le_trans h.size h'.size
  shell ref hlt := (h'.shell ref (Nat.lt_of_lt_of_le hlt h.size)).trans (h.shell ref hlt)
  isSealed ref hlt hs := h'.isSealed ref (Nat.lt_of_lt_of_le hlt h.size) (h.isSealed ref hlt hs)
  frozen ref hlt hs hn := by
    have hlt' := Nat.lt_of_lt_of_le hlt h.size
    rw [h'.frozen ref hlt' (h.isSealed ref hlt hs) hn, h.frozen ref hlt hs hn]

theorem SameReservoirs.grows {s s' : Service E} (h : s.SameReservoirs s') (spent : Ref → Prop) :
    Grows spent s s' where
  size := le_of_eq (congrArg Array.size h.pool).symm
  shell ref _ := by rw [h.reservoir]
  isSealed ref _ hs := by rwa [h.reservoir]
  frozen ref _ _ _ := h.reservoir ref

/-- A change of the live reservoirs or of the queue alone changes no reservoir. -/
theorem grows_of_pool_eq {s s' : Service E} (h : s'.pool = s.pool) (spent : Ref → Prop) :
    Grows spent s s' where
  size := le_of_eq (congrArg Array.size h).symm
  shell ref _ := by rw [reservoir, reservoir, h]
  isSealed ref _ hs := by rwa [reservoir, h]
  frozen ref _ _ _ := by rw [reservoir, reservoir, h]

theorem grows_backlog (spent : Ref → Prop) (s : Service E) (backlog : Backlog Ref) :
    Grows spent s { s with backlog := backlog } := by
  refine grows_of_pool_eq ?_ spent
  rfl

theorem grows_modify (spent : Ref → Prop) (s : Service E) (ref : Ref)
    {f : Reservoir E → Reservoir E} (hshell : ∀ r : Reservoir E, (f r).shell = r.shell)
    (hsealed : ∀ r : Reservoir E, r.isSealed → (f r).isSealed)
    (hfrozen : spent ref ∨ ((s.reservoir ref).isSealed → f (s.reservoir ref) = s.reservoir ref)) :
    Grows spent s (s.modify ref f) where
  size := le_of_eq (s.size_modify ref f).symm
  shell ref' hlt := by
    by_cases h : ref' = ref
    · subst h
      rw [reservoir_modify_self hlt, hshell]
    · rw [s.reservoir_modify_of_ne h]
  isSealed ref' hlt hs := by
    by_cases h : ref' = ref
    · subst h
      rw [reservoir_modify_self hlt]
      exact hsealed _ hs
    · rwa [s.reservoir_modify_of_ne h]
  frozen ref' hlt hs hn := by
    by_cases h : ref' = ref
    · subst h
      rw [reservoir_modify_self hlt]
      exact hfrozen.resolve_left hn hs
    · rw [s.reservoir_modify_of_ne h]

theorem grows_install (spent : Ref → Prop) (s : Service E) (kind : Kind) (app : String)
    (decidedLast : Nat) : Grows spent s (s.install kind app decidedLast).2 where
  size := by rw [size_install]; exact Nat.le_succ _
  shell ref hlt := by rw [reservoir_install hlt]
  isSealed ref hlt hs := by rwa [reservoir_install hlt]
  frozen ref hlt _ _ := reservoir_install hlt kind app decidedLast

theorem grows_getOrCreate (spent : Ref → Prop) (s : Service E) (kind : Kind) (app : String) :
    Grows spent s (s.getOrCreate kind app).2 := by
  rw [getOrCreate]
  split
  · exact .refl spent s
  · exact s.grows_install spent kind app 0

/-- An event that is not retained comes back as it was offered. -/
theorem offer_fst_cases (s : Service E) (ref : Ref) (priority : Float) (event : E) :
    (s.offer ref priority event).1 = .accepted ∨ (s.offer ref priority event).1 = .rejected event ∨
      (s.offer ref priority event).1 = .closed event :=
  (s.reservoir ref).offer_fst_cases priority event

theorem grows_offer (spent : Ref → Prop) (s : Service E) (ref : Ref) (priority : Float)
    (event : E) : Grows spent s (s.offer ref priority event).2 := by
  refine s.grows_modify spent ref ?_ ?_ (.inr ?_)
  · exact fun r => r.shell_offer priority event
  · intro r h
    rwa [r.isSealed_offer priority event]
  · intro h
    rw [Sampling.Reservoir.offer_of_isSealed h]

theorem grows_countTry (spent : Ref → Prop) (s : Service E) (ref : Ref) :
    Grows spent s (s.countTry ref).2 := by
  refine s.grows_modify spent ref ?_ ?_ (.inr ?_)
  · exact fun r => r.shell_countTry
  · intro r h
    rwa [r.isSealed_countTry]
  · intro h
    rw [Sampling.Reservoir.countTry_of_isSealed h]

end Service

end Telemetry.Events
