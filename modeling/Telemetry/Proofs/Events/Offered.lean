import Telemetry.Proofs.Events.Precheck

/-!
# The reservoir that an event is offered to

An event is offered to the live reservoir of its application and kind. That may not be there yet,
and is made then: so what is said of it is said of the one that would be made
(`Service.reservoirFor`). Seen like this, making a reservoir changes nothing, and each operation
changes one reservoir at most.

| operation | what becomes of it |
|---|---|
| `Service.getOrCreate`, `Service.askEnabled`, `Service.internAt` | it stays as it is |
| `Service.modify` of the live one | what it is told, and the others stay |
| `Service.offerLive` | the offer, and the others stay |

Reservoirs that are no longer live, such as those that wait to be sent, are not seen like this. That
they stay as they are is said by `Service.Confined`.
-/

namespace Telemetry.Events

open Sampling (HasPriority Reservoir)

variable {E : Type}

namespace Service

/-- **The reservoir that the next event** of an application and kind is offered to: the live one, or
the one that is made if there is none. -/
def reservoirFor (s : Service E) (kind : Kind) (app : String) : Reservoir E :=
  (s.getOrCreate kind app).2.reservoir (s.getOrCreate kind app).1

variable {s s' : Service E} {kind kind' : Kind} {app app' : String} {ref : Ref}
  {aside : Multiset Ref}

theorem reservoirFor_of_some (h : s.liveRef? kind app = some ref) :
    s.reservoirFor kind app = s.reservoir ref := by
  rw [reservoirFor, getOrCreate_of_some h]

theorem reservoirFor_of_none (h : s.liveRef? kind app = none) :
    s.reservoirFor kind app = s.freshReservoir kind app 0 := by
  rw [reservoirFor, getOrCreate_of_none h]
  exact s.reservoir_install_self kind app 0

/-- It takes events. -/
theorem Sound.isSealed_reservoirFor (h : s.Sound aside) (kind : Kind) (app : String) :
    (s.reservoirFor kind app).isSealed = false :=
  (h.getOrCreate kind app).isOpen (s.liveRef?_getOrCreate kind app)

/-- It is the same if the live one is, and if there is none, the one that would be made. -/
theorem reservoirFor_eq (hlive : s'.liveRef? kind app = s.liveRef? kind app)
    (hreservoir : ∀ ref, s.liveRef? kind app = some ref → s'.reservoir ref = s.reservoir ref)
    (hfresh : s'.freshReservoir kind app 0 = s.freshReservoir kind app 0) :
    s'.reservoirFor kind app = s.reservoirFor kind app := by
  cases hr : s.liveRef? kind app with
  | none => rw [reservoirFor_of_none hr, reservoirFor_of_none (hlive.trans hr), hfresh]
  | some ref =>
    rw [reservoirFor_of_some hr, reservoirFor_of_some (hlive.trans hr), hreservoir ref hr]

theorem SameReservoirs.reservoirFor (h : s.SameReservoirs s')
    (hfresh : s'.freshReservoir kind app 0 = s.freshReservoir kind app 0) :
    s'.reservoirFor kind app = s.reservoirFor kind app :=
  reservoirFor_eq (h.liveRef? kind app) (fun ref _ => h.reservoir ref) hfresh

theorem SameButNames.reservoirFor (h : s.SameButNames s') (kind : Kind) (app : String) :
    s'.reservoirFor kind app = s.reservoirFor kind app :=
  h.toSameReservoirs.reservoirFor (h.freshReservoir kind app 0)

theorem reservoirFor_askEnabled (s : Service E) (app' : String) (kind : Kind) (app : String) :
    (s.askEnabled app').2.reservoirFor kind app = s.reservoirFor kind app := by
  refine (s.sameReservoirs_askEnabled app').reservoirFor ?_
  rw [askEnabled]
  split <;> rfl

/-- **Getting or making a reservoir** changes none: it may be the one that would be made. -/
theorem Sound.reservoirFor_getOrCreate (h : s.Sound aside) (kind kind' : Kind) (app app' : String) :
    (s.getOrCreate kind' app').2.reservoirFor kind app = s.reservoirFor kind app := by
  cases hr : s.liveRef? kind' app' with
  | some ref => rw [getOrCreate_of_some hr]
  | none =>
    rw [getOrCreate_of_none hr]
    have hlive := s.liveRef?_install kind' kind app' app 0
    split at hlive
    next hown =>
      obtain ⟨rfl, rfl⟩ := hown
      rw [reservoirFor_of_some hlive, reservoir_install_self, reservoirFor_of_none hr]
    next =>
      exact reservoirFor_eq hlive
        (fun ref hold => reservoir_install (h.live hold).lt kind' app' 0)
        ((s.sameSettings_install kind' app' 0).freshReservoir kind app 0)

/-- **A live reservoir changes**, and no other one. -/
theorem Sound.reservoirFor_modify (h : s.Sound aside) (hlive : s.liveRef? kind' app' = some ref)
    (f : Reservoir E → Reservoir E) (kind : Kind) (app : String) :
    (s.modify ref f).reservoirFor kind app =
      if kind' = kind ∧ app' = app then f (s.reservoirFor kind app)
      else s.reservoirFor kind app := by
  have hsame : (s.modify ref f).liveRef? kind app = s.liveRef? kind app := rfl
  split
  next hown =>
    obtain ⟨rfl, rfl⟩ := hown
    rw [reservoirFor_of_some (hsame.trans hlive), reservoirFor_of_some hlive,
      reservoir_modify_self (h.live hlive).lt]
  next hother =>
    refine reservoirFor_eq hsame (fun old hold => reservoir_modify_of_ne s ?_ f)
      ((s.sameSettings_modify ref f).freshReservoir kind app 0)
    rintro rfl
    exact hother ((h.live hlive).unique (h.live hold))

/-! ### What else there is -/

/-- **Only live reservoirs of an application** change, or are made. -/
structure Confined (app : String) (s s' : Service E) : Prop where
  size : s.pool.size ≤ s'.pool.size
  /-- No reservoir takes the place of another one, or is taken away. -/
  live : ∀ {kind app' ref}, ref < s.pool.size →
    (s'.liveRef? kind app' = some ref ↔ s.liveRef? kind app' = some ref)
  reservoir : ∀ {ref}, ref < s.pool.size →
    (∃ kind, s.liveRef? kind app = some ref) ∨ s'.reservoir ref = s.reservoir ref
  queue : s'.backlog.queue = s.backlog.queue
  rules : s.SameRules s'

theorem Confined.trans {s'' : Service E} (h : s.Confined app s') (h' : s'.Confined app s'') :
    s.Confined app s'' where
  size := h.size.trans h'.size
  live hlt := (h'.live (hlt.trans_le h.size)).trans (h.live hlt)
  reservoir {ref} hlt := by
    rcases h.reservoir hlt with hlive | hsame
    · exact .inl hlive
    rcases h'.reservoir (hlt.trans_le h.size) with ⟨kind, hlive⟩ | hsame'
    · exact .inl ⟨kind, (h.live hlt).1 hlive⟩
    · exact .inr (hsame'.trans hsame)
  queue := h'.queue.trans h.queue
  rules := h.rules.trans h'.rules

theorem SameReservoirs.confined (h : s.SameReservoirs s') (hrules : s.SameRules s')
    (app : String) : s.Confined app s' where
  size := Nat.le_of_eq (congrArg Array.size h.pool).symm
  live {kind app' ref} _ := by rw [h.liveRef? kind app']
  reservoir {ref} _ := .inr (h.reservoir ref)
  queue := h.queue
  rules := hrules

theorem confined_getOrCreate (s : Service E) (kind : Kind) (app : String) :
    s.Confined app (s.getOrCreate kind app).2 := by
  cases hr : s.liveRef? kind app with
  | some ref =>
    rw [getOrCreate_of_some hr]
    exact (SameReservoirs.refl s).confined (.refl s) app
  | none =>
    rw [getOrCreate_of_none hr]
    refine ⟨?_, fun {kind' app' ref} hlt => ?_, fun {ref} hlt => ?_, rfl,
      (s.sameSettings_install kind app 0).sameRules⟩
    · rw [size_install]
      exact Nat.le_succ _
    · rw [liveRef?_install]
      split
      next hown =>
        -- the new one is none of those that were there, and there was none
        obtain ⟨rfl, rfl⟩ := hown
        rw [hr]
        exact iff_of_false (fun heq => hlt.ne' (Option.some.inj heq)) nofun
      next => rfl
    · exact .inr (reservoir_install hlt kind app 0)

theorem confined_modify (hlive : s.liveRef? kind app = some ref)
    (f : Reservoir E → Reservoir E) : s.Confined app (s.modify ref f) where
  size := Nat.le_of_eq (s.size_modify ref f).symm
  live _ := Iff.rfl
  reservoir {old} _ := by
    by_cases heq : old = ref
    · subst heq
      exact .inl ⟨kind, hlive⟩
    · exact .inr (s.reservoir_modify_of_ne heq f)
  queue := rfl
  rules := (s.sameSettings_modify ref f).sameRules

section Offer

variable [HasPriority E]

/-- What an offer makes of a reservoir. -/
def offering (event : E) (r : Reservoir E) : Reservoir E :=
  (r.offer (HasPriority.priority event) event).2

/-- **An offer** changes the reservoir that it is made to, and no other one. -/
theorem Sound.reservoirFor_offerLive (h : s.Sound aside) (kind' : Kind) (app' : String) (event : E)
    (kind : Kind) (app : String) :
    (s.offerLive kind' app' event).2.reservoirFor kind app =
      if kind' = kind ∧ app' = app then offering event (s.reservoirFor kind app)
      else s.reservoirFor kind app := by
  have hoffered := (h.getOrCreate kind' app').reservoirFor_modify
    (s.liveRef?_getOrCreate kind' app') (offering event) kind app
  rwa [h.reservoirFor_getOrCreate] at hoffered

/-- The reservoir that is asked decides. -/
theorem fst_offerLive (s : Service E) (kind : Kind) (app : String) (event : E) :
    (s.offerLive kind app event).1 =
      ((s.reservoirFor kind app).offer (HasPriority.priority event) event).1 := rfl

theorem confined_offerLive (s : Service E) (kind : Kind) (app : String) (event : E) :
    s.Confined app (s.offerLive kind app event).2 :=
  (s.confined_getOrCreate kind app).trans
    (confined_modify (s.liveRef?_getOrCreate kind app) (offering event))

theorem Sound.offerLive (h : s.Sound aside) (kind : Kind) (app : String) (event : E) :
    (s.offerLive kind app event).2.Sound aside :=
  (h.getOrCreate kind app).offer _ _ event

end Offer

end Service

end Telemetry.Events
