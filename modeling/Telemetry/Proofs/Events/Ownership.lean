import Telemetry.Proofs.Events.Service
import Telemetry.Proofs.Events.Store
import Telemetry.Proofs.Sampling.Reservoir

/-!
# Every reservoir has one owner

A reservoir of the pool is live, or has been swapped out and set aside – to wait, or to be
sent – or is forgotten. `Service.Sound` is the invariant behind everything that is counted
about events: a live reservoir is the one its application and kind say, and takes events; one
set aside is sealed, and set aside once. So no reservoir has two owners
(`Service.Sound.nodup`), and an operation on one leaves the contents of all others alone.
-/

namespace Telemetry.Events

open Sampling (Reservoir Offer)

namespace Service

variable {E : Type}

/-- A reservoir for the events of an application, of one kind. -/
structure Belongs (s : Service E) (kind : Kind) (app : String) (ref : Ref) : Prop where
  lt : ref < s.pool.size
  app : (s.reservoir ref).app = app
  service : (s.reservoir ref).service = kind.service

theorem Belongs.grows {s s' : Service E} {spent : Ref → Prop} {kind : Kind} {app : String}
    {ref : Ref} (h : s.Belongs kind app ref) (hg : Grows spent s s') :
    s'.Belongs kind app ref where
  lt := Nat.lt_of_lt_of_le h.lt hg.size
  app := (congrArg (·.1) (hg.shell ref h.lt)).trans h.app
  service := (congrArg (·.2.1) (hg.shell ref h.lt)).trans h.service

/-- A reservoir is for the events of one application and kind only. -/
theorem Belongs.unique {s : Service E} {kind kind' : Kind} {app app' : String} {ref : Ref}
    (h : s.Belongs kind app ref) (h' : s.Belongs kind' app' ref) : kind = kind' ∧ app = app' :=
  ⟨Kind.service_injective (h.service.symm.trans h'.service), h.app.symm.trans h'.app⟩

/-- **The invariant of the reservoirs.** Those in `aside` have been swapped out. -/
structure Sound (s : Service E) (aside : Multiset Ref) : Prop where
  /-- A live reservoir is for the events of its application and kind. -/
  live : ∀ {kind app ref}, s.liveRef? kind app = some ref → s.Belongs kind app ref
  /-- It takes events. -/
  isOpen : ∀ {kind app ref}, s.liveRef? kind app = some ref → (s.reservoir ref).isSealed = false
  /-- No reservoir is set aside twice. -/
  nodup_aside : aside.Nodup
  /-- One that is set aside is in the pool. -/
  lt : ∀ {ref}, ref ∈ aside → ref < s.pool.size
  /-- It takes no events. -/
  isSealed : ∀ {ref}, ref ∈ aside → (s.reservoir ref).isSealed

/-- **No reservoir has two owners.** -/
theorem Sound.nodup {s : Service E} {aside : Multiset Ref} (h : s.Sound aside) :
    (s.live.all + aside).Nodup := by
  refine Multiset.nodup_add.2 ⟨Store.nodup_all ?_, h.nodup_aside, ?_⟩
  · intro kind kind' app app' ref hr hr'
    exact (h.live hr).unique (h.live hr')
  · refine Multiset.disjoint_left.2 fun {ref} hlive haside => ?_
    obtain ⟨kind, app, hr⟩ := Store.mem_all_iff.1 hlive
    have hopen := h.isOpen hr
    rw [h.isSealed haside] at hopen
    exact Bool.false_ne_true hopen.symm

/-- What is set aside can be forgotten. -/
theorem Sound.mono {s : Service E} {aside aside' : Multiset Ref} (h : s.Sound aside)
    (hle : aside' ≤ aside) : s.Sound aside' where
  live := h.live
  isOpen := h.isOpen
  nodup_aside := Multiset.nodup_of_le hle h.nodup_aside
  lt hm := h.lt (Multiset.mem_of_le hle hm)
  isSealed hm := h.isSealed (Multiset.mem_of_le hle hm)

/-- A change of the service that makes nothing live and opens nothing. -/
theorem Sound.grows {s s' : Service E} {aside : Multiset Ref} {spent : Ref → Prop}
    (h : s.Sound aside) (hg : Grows spent s s')
    (hlive : ∀ {kind app ref}, s'.liveRef? kind app = some ref →
      s.liveRef? kind app = some ref ∧ (s'.reservoir ref).isSealed = false) : s'.Sound aside where
  live hr := (h.live (hlive hr).1).grows hg
  isOpen hr := (hlive hr).2
  nodup_aside := h.nodup_aside
  lt hm := Nat.lt_of_lt_of_le (h.lt hm) hg.size
  isSealed hm := hg.isSealed _ (h.lt hm) (h.isSealed hm)

theorem Sound.sameReservoirs {s s' : Service E} {aside : Multiset Ref} (h : s.Sound aside)
    (hs : s.SameReservoirs s') : s'.Sound aside :=
  h.grows (hs.grows fun _ => False) fun hr => by
    rw [hs.liveRef?] at hr
    exact ⟨hr, by rw [hs.reservoir]; exact h.isOpen hr⟩

/-- Reservoirs may cease to be live. -/
theorem Sound.retires {s s' : Service E} {aside : Multiset Ref} (h : s.Sound aside)
    (hr : s.Retires s') : s'.Sound aside :=
  h.grows (grows_of_pool_eq hr.pool fun _ => False) fun hlive => by
    refine ⟨hr.live hlive, ?_⟩
    rw [reservoir, hr.pool]
    exact h.isOpen (hr.live hlive)

/-- An operation on one reservoir that neither seals nor opens it. -/
theorem Sound.modify {s : Service E} {aside : Multiset Ref} (h : s.Sound aside) (ref : Ref)
    {f : Reservoir E → Reservoir E} (hshell : ∀ r : Reservoir E, (f r).shell = r.shell)
    (hsealed : ∀ r : Reservoir E, (f r).isSealed = r.isSealed) : (s.modify ref f).Sound aside := by
  refine h.grows (s.grows_modify (fun _ => True) ref hshell (fun r hr => (hsealed r).trans hr)
    (.inl trivial)) fun {kind app ref'} hr => ⟨hr, ?_⟩
  by_cases heq : ref' = ref
  · subst heq
    rw [reservoir_modify_self (h.live hr).lt, hsealed]
    exact h.isOpen hr
  · rw [s.reservoir_modify_of_ne heq]
    exact h.isOpen hr

theorem Sound.offer {s : Service E} {aside : Multiset Ref} (h : s.Sound aside) (ref : Ref)
    (priority : Float) (event : E) : (s.offer ref priority event).2.Sound aside :=
  h.modify ref (fun r => r.shell_offer priority event) fun r => r.isSealed_offer priority event

theorem Sound.countTry {s : Service E} {aside : Multiset Ref} (h : s.Sound aside) (ref : Ref) :
    (s.countTry ref).2.Sound aside :=
  h.modify ref (fun r => r.shell_countTry) fun r => r.isSealed_countTry

theorem Sound.decide {s : Service E} {aside : Multiset Ref} (h : s.Sound aside) (ref : Ref)
    (random : Float) : (s.decide ref random).2.Sound aside :=
  h.modify ref (fun r => r.shell_decide random) fun r => r.isSealed_decide random

theorem belongs_install (s : Service E) (kind : Kind) (app : String) (decidedLast : Nat) :
    (s.install kind app decidedLast).2.Belongs kind app s.pool.size where
  lt := by rw [size_install]; exact Nat.lt_succ_self _
  app := by rw [reservoir_install_self]; rfl
  service := by rw [reservoir_install_self]; rfl

theorem Sound.install {s : Service E} {aside : Multiset Ref} (h : s.Sound aside) (kind : Kind)
    (app : String) (decidedLast : Nat) : (s.install kind app decidedLast).2.Sound aside := by
  have hg := s.grows_install (fun _ => False) kind app decidedLast
  refine ⟨fun {kind' app' ref} hr => ?_, fun {kind' app' ref} hr => ?_, h.nodup_aside,
    fun hm => Nat.lt_of_lt_of_le (h.lt hm) hg.size,
    fun hm => hg.isSealed _ (h.lt hm) (h.isSealed hm)⟩
  · rw [liveRef?_install] at hr
    split at hr
    next heq =>
      obtain ⟨rfl, rfl⟩ := heq
      obtain rfl := Option.some.inj hr
      exact s.belongs_install kind' app' decidedLast
    next => exact (h.live hr).grows hg
  · rw [liveRef?_install] at hr
    split at hr
    next =>
      obtain rfl := Option.some.inj hr
      rw [reservoir_install_self]
      rfl
    next =>
      rw [reservoir_install (h.live hr).lt]
      exact h.isOpen hr

theorem Sound.getOrCreate {s : Service E} {aside : Multiset Ref} (h : s.Sound aside) (kind : Kind)
    (app : String) : (s.getOrCreate kind app).2.Sound aside := by
  rw [Service.getOrCreate]
  split
  · exact h
  · exact h.install kind app 0

/-- What is got or created is live. -/
theorem liveRef?_getOrCreate (s : Service E) (kind : Kind) (app : String) :
    (s.getOrCreate kind app).2.liveRef? kind app = some (s.getOrCreate kind app).1 := by
  rw [getOrCreate]
  split
  next ref h => exact h
  next => rw [liveRef?_install, if_pos ⟨rfl, rfl⟩]; rfl

theorem grows_swapOut (spent : Ref → Prop) (s : Service E) (kind : Kind) (app : String) :
    Grows spent s (s.swapOut kind app).2 := by
  cases hr : s.liveRef? kind app with
  | none => rw [swapOut_snd_of_none hr]; exact s.grows_install spent kind app _
  | some ref =>
    rw [swapOut_snd_of_some hr]
    refine (s.grows_install spent kind app _).trans (grows_modify spent _ ref
      (fun r => r.shell_sealed) (fun r _ => rfl) (.inr fun hsealed => ?_))
    rw [Sampling.Reservoir.sealed, ← hsealed]

/-- **A swap sets the reservoir aside** that was live before. -/
theorem Sound.swapOut {s : Service E} {aside : Multiset Ref} (h : s.Sound aside) (kind : Kind)
    (app : String) :
    (s.swapOut kind app).2.Sound (aside + (s.liveRef? kind app).toList) := by
  have hg := s.grows_swapOut (fun _ => False) kind app
  have hi := h.install kind app (s.liveTries kind app)
  cases hr : s.liveRef? kind app with
  | none =>
    rw [swapOut_snd_of_none hr]
    simpa using hi
  | some ref =>
    have hlt : ref < (s.install kind app (s.liveTries kind app)).2.pool.size := by
      rw [size_install]
      exact Nat.lt_succ_of_lt (h.live hr).lt
    have hnot : ref ∉ aside := fun hm => by
      have hopen := h.isOpen hr
      rw [h.isSealed hm] at hopen
      exact Bool.false_ne_true hopen.symm
    rw [swapOut_snd_of_some hr] at hg ⊢
    -- the reservoir that is sealed now is live no more
    have hne : ∀ {kind' app' ref'},
        (s.install kind app (s.liveTries kind app)).2.liveRef? kind' app' = some ref' →
          ref' ≠ ref := by
      rintro kind' app' ref' hr' rfl
      rw [liveRef?_install] at hr'
      split at hr'
      next =>
        obtain rfl := Option.some.inj hr'
        exact Nat.lt_irrefl _ (h.live hr).lt
      next hcon =>
        exact hcon ((h.live hr').unique (h.live hr))
    refine ⟨fun {kind' app' ref'} hr' => ?_, fun {kind' app' ref'} hr' => ?_, ?_,
      fun {ref'} hm => ?_, fun {ref'} hm => ?_⟩
    · exact (hi.live hr').grows (grows_modify (fun _ => True) _ ref (fun r => r.shell_sealed)
        (fun _ _ => rfl) (.inl trivial))
    · rw [reservoir_modify_of_ne _ (hne hr')]
      exact hi.isOpen hr'
    · simpa [Multiset.nodup_add, h.nodup_aside] using hnot
    · rcases Multiset.mem_add.1 hm with hm | hm
      · exact Nat.lt_of_lt_of_le (h.lt hm) hg.size
      · obtain rfl : ref' = ref := by simpa using hm
        rwa [size_modify]
    · rcases Multiset.mem_add.1 hm with hm | hm
      · exact hg.isSealed _ (h.lt hm) (h.isSealed hm)
      · obtain rfl : ref' = ref := by simpa using hm
        rw [reservoir_modify_self hlt]
        rfl

/-- A live reservoir makes its sampling decisions, as it is not sealed. -/
theorem Sound.grows_decide {s : Service E} {aside : Multiset Ref} (h : s.Sound aside)
    (spent : Ref → Prop) {ref : Ref} {kind : Kind} {app : String}
    (hlive : s.liveRef? kind app = some ref) (random : Float) :
    Grows spent s (s.decide ref random).2 := by
  refine s.grows_modify spent ref (fun r => r.shell_decide random) (fun r hr => ?_)
    (.inr fun hsealed => ?_)
  · rwa [r.isSealed_decide]
  · rw [h.isOpen hlive] at hsealed
    exact absurd hsealed Bool.false_ne_true

/-- A merge spends its source; its target is live and hence not sealed. -/
theorem Sound.grows_mergeInto {s : Service E} {aside : Multiset Ref} (h : s.Sound aside)
    {source target : Ref} {kind : Kind} {app : String}
    (htarget : s.liveRef? kind app = some target) :
    Grows (· = source) s (s.mergeInto target source) := by
  rw [Service.mergeInto]
  split
  · exact .refl _ s
  next hne =>
    have hspent := s.grows_modify (· = source) source (fun r => r.shell_drained) (fun _ hr => hr)
      (.inl rfl)
    refine hspent.trans (grows_modify _ _ target (fun r => r.shell_merge _) (fun r hr => ?_)
      (.inr fun hsealed => ?_))
    · rwa [r.isSealed_merge]
    · rw [s.reservoir_modify_of_ne hne, h.isOpen htarget] at hsealed
      exact absurd hsealed Bool.false_ne_true

theorem Sound.mergeInto {s : Service E} {aside : Multiset Ref} (h : s.Sound aside)
    (target source : Ref) : (s.mergeInto target source).Sound aside := by
  rw [Service.mergeInto]
  split
  · exact h
  · exact (h.modify source (fun r => r.shell_drained) fun _ => rfl).modify target
      (fun r => r.shell_merge _) fun r => r.isSealed_merge _

end Service

end Telemetry.Events
