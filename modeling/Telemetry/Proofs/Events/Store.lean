import Telemetry.Events.Store
import Telemetry.Proofs.Dict

/-!
# The live reservoirs, counted

`Store.all` has every live reservoir of both kinds, as often as it is live. Setting one
adds it and takes away the one it replaces (`Store.all_set`); removing and clearing only
take some away.
-/

namespace Telemetry.Events

theorem Kind.service_injective {a b : Kind} (h : a.service = b.service) : a = b := by
  cases a <;> cases b <;> first | rfl | exact absurd h (by decide)

namespace Store

variable {α : Type}

/-- All live reservoirs, of both kinds. -/
def all (s : Store α) : Multiset α := (s.ordinary.values : Multiset α) + s.synthetic.values

theorem mem_all_iff {s : Store α} {x : α} : x ∈ s.all ↔ ∃ kind app, s.get? kind app = some x := by
  rw [all, Multiset.mem_add, Multiset.mem_coe, Multiset.mem_coe, Dict.mem_values_iff,
    Dict.mem_values_iff]
  constructor
  · rintro (⟨app, h⟩ | ⟨app, h⟩)
    · exact ⟨.ordinary, app, h⟩
    · exact ⟨.synthetic, app, h⟩
  · rintro ⟨kind | kind, app, h⟩
    · exact .inl ⟨app, h⟩
    · exact .inr ⟨app, h⟩

/-- **Setting** a live reservoir adds it, and takes away the one it replaces. -/
theorem all_set (s : Store α) (kind : Kind) (app : String) (x : α) :
    (s.set kind app x).all + (s.get? kind app).toList = x ::ₘ s.all := by
  cases kind with
  | ordinary =>
    have h := s.ordinary.values_insert app x
    change ((s.ordinary.insert app x).values : Multiset α) + s.synthetic.values +
      (s.ordinary.get? app).toList = _
    rw [add_right_comm, h, Multiset.cons_add]
    rfl
  | synthetic =>
    have h := s.synthetic.values_insert app x
    change (s.ordinary.values : Multiset α) + (s.synthetic.insert app x).values +
      (s.synthetic.get? app).toList = _
    rw [add_assoc, h, Multiset.add_cons]
    rfl

theorem all_remove_le (s : Store α) (kind : Kind) (app : String) :
    (s.remove kind app).all ≤ s.all := by
  cases kind with
  | ordinary => exact add_le_add (s.ordinary.values_filter_le _) le_rfl
  | synthetic => exact add_le_add le_rfl (s.synthetic.values_filter_le _)

theorem all_clear_le (s : Store α) (kind : Kind) : (s.clear kind).all ≤ s.all := by
  cases kind with
  | ordinary => exact add_le_add (Multiset.zero_le _) le_rfl
  | synthetic => exact add_le_add le_rfl (Multiset.zero_le _)

/-- No reservoir is live twice if it knows where it is live. -/
theorem nodup_all {s : Store α}
    (h : ∀ kind kind' app app' x, s.get? kind app = some x → s.get? kind' app' = some x →
      kind = kind' ∧ app = app') : s.all.Nodup := by
  refine Multiset.nodup_add.2 ⟨?_, ?_, ?_⟩
  · exact Dict.values_nodup fun app app' x hx hx' => (h .ordinary .ordinary app app' x hx hx').2
  · exact Dict.values_nodup fun app app' x hx hx' => (h .synthetic .synthetic app app' x hx hx').2
  · refine Multiset.disjoint_left.2 fun {x} hx hx' => ?_
    obtain ⟨app, hx⟩ := Dict.mem_values_iff.1 (Multiset.mem_coe.1 hx)
    obtain ⟨app', hx'⟩ := Dict.mem_values_iff.1 (Multiset.mem_coe.1 hx')
    exact absurd (h .ordinary .synthetic app app' x hx hx').1 (by decide)

end Store

end Telemetry.Events
