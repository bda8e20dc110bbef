import Telemetry.Proofs.Sampling.Merging

/-!
# What one offer does

An offer to a sealed reservoir does nothing. To any other it adds one try, and what else it does is
a matter of three questions: is the priority finite, is there room, and if not, is the priority
above the lowest one, that is, above any (`Reservoir.Answers`).

| priority | room | | the entries |
|---|---|---|---|
| not finite | | rejected | stay |
| finite | yes | accepted | the event joins |
| finite, above the lowest | no | accepted | the event joins, the last one leaves |
| finite, not above | no | rejected | stay |

An event that is rejected, or offered to a sealed reservoir, comes back with the answer.

The last entry is the latest among those of lowest priority (`Reservoir.IsLatestLowest`). "Above"
is meant of numbers, "lowest" of the total order of doubles, in which the zeros differ: so an event
of priority `0.0` does not take the place of one of priority `-0.0`, while of the two it is the
latter that leaves first.

The heap array is rearranged by each of these, the list of the entries is not: those that stay
keep their order (`Reservoir.Trades`). All of it rests on `Reservoir.offer_of_open`: an open
reservoir accepts exactly what it said it would. What it refuses can be told from what it retains
(`Reservoir.Refuses`).
-/

namespace Telemetry.Sampling

namespace Reservoir

variable {E : Type} {r : Reservoir E} {priority : Float} {event : E}

/-! ### The decision -/

/-- An event that would be accepted finds a place. -/
theorem insert_fst_of_wouldAccept (h : r.wouldAccept priority) (event : E) :
    (r.insert priority event).1 = none := by
  rw [wouldAccept, Bool.and_eq_true, Bool.or_eq_true, Bool.not_eq_true'] at h
  rw [insert]
  rcases h.2 with hroom | hhigh
  · rw [if_neg (by rw [hroom]; exact Bool.false_ne_true)]
  · rw [if_pos hhigh]
    split <;> rfl

theorem isFull_eq_false_iff (r : Reservoir E) : r.isFull = false ↔ r.size < r.capacity := by
  rw [isFull, decide_eq_false_iff_not, Nat.not_le]

/-- A number that would not be accepted finds none, and the event comes back. -/
theorem insert_of_not_wouldAccept (h : r.wouldAccept priority = false)
    (hnumber : Double.isNumber priority) (event : E) :
    r.insert priority event = (some event, r) := by
  rw [wouldAccept, hnumber, Bool.true_and, Bool.or_eq_false_iff, Bool.not_eq_false'] at h
  rw [insert, if_pos h.1, if_neg (by rw [h.2]; exact Bool.false_ne_true)]

/-- An event that finds a place takes the next sequence number. -/
theorem nextSeq_insert (h : (r.insert priority event).1 = none) :
    (r.insert priority event).2.nextSeq = r.nextSeq + 1 := by
  rw [insert] at h ⊢
  split
  next hfull =>
    rw [if_pos hfull] at h
    split
    next => exact congrArg (· + 1) (nextSeq_evict r)
    next hlow =>
      rw [if_neg hlow] at h
      exact absurd h (Option.some_ne_none event)
  next => rfl

/-- **An open reservoir keeps its word**: it accepts an event exactly if it would accept the
priority, and hands it back otherwise. -/
theorem offer_of_open (h : r.isSealed = false) (priority : Float) (event : E) :
    r.offer priority event =
      if r.wouldAccept priority then (.accepted, (r.tried.insert priority event).2)
      else (.rejected event, r.tried) := by
  by_cases hnumber : Double.isNumber priority
  · rw [offer_of_isNumber h hnumber]
    cases hwould : r.wouldAccept priority with
    | true =>
      have hkept : (r.tried.insert priority event).1 = none :=
        insert_fst_of_wouldAccept (r := r.tried) hwould event
      rw [hkept]
      rfl
    | false =>
      have hreturned : r.tried.insert priority event = (some event, r.tried) :=
        insert_of_not_wouldAccept (r := r.tried) hwould hnumber event
      rw [hreturned]
      rfl
  · have hwont : r.wouldAccept priority = false := by
      rw [wouldAccept, Bool.eq_false_of_not_eq_true hnumber, Bool.false_and]
    rw [offer_of_not_isNumber h (Bool.eq_false_of_not_eq_true hnumber), hwont]
    rfl

/-! ### What becomes of the entries -/

/-- **Some entries leave and others join**, and those that stay keep their order. -/
def Trades (r r' : Reservoir E) (joined left : List (Entry E)) : Prop :=
  ∃ above below, r.entries = above ++ below ++ left ∧ r'.entries = above ++ joined ++ below

/-- Those that join are there then. -/
theorem Trades.mem_of_joined {r' : Reservoir E} {joined left : List (Entry E)} {e : Entry E}
    (h : r.Trades r' joined left) (he : e ∈ joined) : e ∈ r'.entries := by
  obtain ⟨above, below, -, hentries⟩ := h
  rw [hentries]
  exact List.mem_append_left _ (List.mem_append_right _ he)

theorem trades_of_heap_eq {r' : Reservoir E} (h : r'.heap = r.heap) : r.Trades r' [] [] :=
  ⟨r.entries, [], by rw [List.append_nil, List.append_nil],
    by rw [List.append_nil, List.append_nil, entries, h, entries]⟩

section Offers

variable [HasPriority E]

/-- What an event becomes when it joins. -/
def entryFor (r : Reservoir E) (event : E) : Entry E :=
  ⟨HasPriority.priority event, r.nextSeq, event⟩

/-- **The latest entry among those of lowest priority** in the total order. -/
structure IsLatestLowest (r : Reservoir E) (last : Entry E) : Prop where
  mem : last ∈ r.entries
  lowest : ∀ e ∈ r.entries,
    Double.rank (HasPriority.priority last.event) ≤ Double.rank (HasPriority.priority e.event)
  latest : ∀ e ∈ r.entries, Double.rank (HasPriority.priority e.event) =
    Double.rank (HasPriority.priority last.event) → e.seq ≤ last.seq

/-- **The answer of a reservoir** to the offer of an event: its decision, and what it becomes. An
event that is not accepted goes back to the caller. -/
structure Answers (r : Reservoir E) (event : E) (decision : Offer E) (r' : Reservoir E) :
    Prop where
  closed : r.isSealed → decision = .closed event ∧ r' = r
  tries : r.isSealed = false → r'.tries = r.tries + 1
  notFinite : r.isSealed = false → (HasPriority.priority event).isFinite = false →
    decision = .rejected event ∧ r.Trades r' [] []
  room : r.isSealed = false → (HasPriority.priority event).isFinite → r.size < r.capacity →
    decision = .accepted ∧ r.Trades r' [r.entryFor event] []
  higher : r.isSealed = false → (HasPriority.priority event).isFinite → r.capacity ≤ r.size →
    (∃ x ∈ r.retained, HasPriority.priority x < HasPriority.priority event) →
      decision = .accepted ∧
        ∃ last, r.IsLatestLowest last ∧ r.Trades r' [r.entryFor event] [last]
  otherwise : r.isSealed = false → (HasPriority.priority event).isFinite → r.capacity ≤ r.size →
    (∀ x ∈ r.retained, ¬ HasPriority.priority x < HasPriority.priority event) →
      decision = .rejected event ∧ r.Trades r' [] []
  /-- An event that joins is later than all that were there. -/
  later : ∀ e ∈ r.entries, e.seq < (r.entryFor event).seq
  /-- Nothing else of the reservoir changes. -/
  frame : r'.shell = r.shell ∧ r'.decisions = r.decisions ∧ r'.isSealed = r.isSealed

/-- **Appending** puts the entry below those that it does not outrank. -/
theorem IsArranged.trades_append (h : r.IsArranged) (event : E) :
    r.Trades (r.append (HasPriority.priority event) event) [r.entryFor event] [] := by
  have happend := h.entries_append (HasPriority.priority event) event
  rw [List.orderedInsert_eq_take_drop, List.append_cons] at happend
  refine ⟨_, _, ?_, happend⟩
  rw [List.append_nil, List.takeWhile_append_dropWhile]

/-- The entry that is evicted is the latest of the lowest. -/
theorem IsArranged.exists_latestLowest (h : r.IsArranged) (hpos : 0 < r.size) :
    ∃ last, r.IsLatestLowest last ∧ r.entries = r.evict.entries ++ [last] := by
  obtain ⟨front, hfront, hentries⟩ := h.entries_eq_concat hpos
  have hmem : front ∈ r.entries := hentries ▸ List.mem_append_right _ List.mem_cons_self
  have hlast : ∀ e ∈ r.entries, Double.rank (HasPriority.priority front.event) <
      Double.rank (HasPriority.priority e.event) ∨
      (Double.rank (HasPriority.priority front.event) =
        Double.rank (HasPriority.priority e.event) ∧ e.seq ≤ front.seq) := by
    intro e he
    rw [← h.carried_entries he, ← h.carried_entries hmem]
    exact Entry.outlasts_iff.1 (h.outlasts_front hfront ((Entry.sort_perm _).mem_iff.1 he))
  refine ⟨front, ⟨hmem, fun e he => ?_, fun e he heq => ?_⟩, hentries⟩
  · rcases hlast e he with hlt | ⟨heq, -⟩
    · exact hlt.le
    · exact heq.le
  · rcases hlast e he with hlt | ⟨-, hseq⟩
    · exact absurd heq hlt.ne'
    · exact hseq

/-- **An event above the lowest one** takes the place of the last entry. -/
theorem IsArranged.trades_replace (h : r.IsArranged)
    (hhigh : r.outranksLowest (HasPriority.priority event)) :
    ∃ last, r.IsLatestLowest last ∧
      r.Trades (r.evict.append (HasPriority.priority event) event) [r.entryFor event] [last] := by
  have hpos := size_pos_of_outranksLowest hhigh
  obtain ⟨last, hlast, hentries⟩ := h.exists_latestLowest hpos
  have hentry : r.evict.entryFor event = r.entryFor event := by
    rw [entryFor, nextSeq_evict, entryFor]
  obtain ⟨above, below, habove, hjoined⟩ := (h.evict hpos).trades_append event
  rw [List.append_nil] at habove
  exact ⟨last, hlast, above, below, by rw [hentries, habove], hentry ▸ hjoined⟩

/-- A number outranks the lowest priority if it is above any that is retained. -/
theorem IsArranged.outranksLowest_iff (h : r.IsArranged) (hnumber : Double.isNumber priority) :
    r.outranksLowest priority ↔ ∃ x ∈ r.retained, HasPriority.priority x < priority := by
  rw [outranksLowest, Option.any_eq_true]
  constructor
  · rintro ⟨low, hlow, hhigh⟩
    obtain ⟨⟨x, hx, rfl⟩, -⟩ := h.minPriority?_spec hlow
    exact ⟨x, hx, (Double.lt_iff_level_lt (h.isNumber_retained hx) hnumber).2
      (of_decide_eq_true hhigh)⟩
  · rintro ⟨x, hx, hlt⟩
    have hheld : r.minPriority? ≠ none := by
      rw [ne_eq, h.minPriority?_eq_none_iff, isEmpty_iff]
      intro hzero
      exact Multiset.notMem_zero x (hzero ▸ hx)
    obtain ⟨low, hlow⟩ := Option.ne_none_iff_exists'.1 hheld
    -- the lowest is not above `x` in the total order, nor then as a number
    have hle := Double.level_le_of_rank_le ((h.minPriority?_spec hlow).2 x hx)
    have hlt' := (Double.lt_iff_level_lt (h.isNumber_retained hx) hnumber).1 hlt
    exact ⟨low, hlow, decide_eq_true (hle.trans_lt hlt')⟩

/-- **Which events are accepted**: those of finite priority, if there is room or the priority is
above one that is retained. -/
theorem IsArranged.wouldAccept_iff (h : r.IsArranged) (priority : Float) :
    r.wouldAccept priority ↔ priority.isFinite ∧
      (r.size < r.capacity ∨ ∃ x ∈ r.retained, HasPriority.priority x < priority) := by
  rw [wouldAccept, Bool.and_eq_true, Bool.or_eq_true, Bool.not_eq_true', isFull_eq_false_iff,
    Double.isFinite_eq_isNumber]
  exact and_congr_right fun hnumber => or_congr_right (h.outranksLowest_iff hnumber)

/-- An event that is rejected comes back, and leaves the entries as they are. -/
theorem offer_of_not_wouldAccept (h : r.isSealed = false)
    (hwont : r.wouldAccept (HasPriority.priority event) = false) :
    (r.offer (HasPriority.priority event) event).1 = .rejected event ∧
      r.Trades (r.offer (HasPriority.priority event) event).2 [] [] := by
  rw [offer_of_open h, hwont]
  exact ⟨rfl, trades_of_heap_eq rfl⟩

/-- **Every arranged reservoir answers** like this. -/
theorem IsArranged.answers (h : r.IsArranged) (event : E) :
    r.Answers event (r.offer (HasPriority.priority event) event).1
      (r.offer (HasPriority.priority event) event).2 := by
  have htried : r.tried.IsArranged := h.of_heap_eq rfl rfl rfl
  have hwould := h.wouldAccept_iff (HasPriority.priority event)
  refine
    { closed := fun hsealed => ?_, tries := fun hopen => ?_, notFinite := fun hopen hinf => ?_
      room := fun hopen hfinite hroom => ?_, higher := fun hopen hfinite hfull hhigh => ?_
      otherwise := fun hopen hfinite hfull hlow => ?_, later := fun e he => ?_, frame := ?_ }
  · rw [offer_of_isSealed hsealed]
    exact ⟨rfl, rfl⟩
  · rw [offer_of_open hopen]
    split
    · rw [tries_insert, tries_tried]
    · exact tries_tried r
  · refine offer_of_not_wouldAccept hopen (Bool.eq_false_of_not_eq_true fun haccept => ?_)
    exact Bool.false_ne_true (hinf.symm.trans (hwould.1 haccept).1)
  · have hnotFull : ¬ r.tried.isFull := Bool.eq_false_iff.1 ((isFull_eq_false_iff r.tried).2 hroom)
    rw [offer_of_open hopen, if_pos (hwould.2 ⟨hfinite, .inl hroom⟩), Reservoir.insert,
      if_neg hnotFull]
    exact ⟨rfl, htried.trades_append event⟩
  · have haccept := hwould.2 ⟨hfinite, .inr hhigh⟩
    have hout : r.tried.outranksLowest (HasPriority.priority event) :=
      (h.outranksLowest_iff (Double.isFinite_eq_isNumber _ ▸ hfinite)).2 hhigh
    have hisFull : r.tried.isFull := decide_eq_true hfull
    rw [offer_of_open hopen, if_pos haccept, Reservoir.insert, if_pos hisFull,
      if_pos hout]
    obtain ⟨last, hlast, htrades⟩ := htried.trades_replace hout
    exact ⟨rfl, last, ⟨hlast.mem, hlast.lowest, hlast.latest⟩, htrades⟩
  · refine offer_of_not_wouldAccept hopen (Bool.eq_false_of_not_eq_true fun haccept => ?_)
    rcases (hwould.1 haccept).2 with hroom | ⟨x, hx, hhigh⟩
    · exact Nat.not_le.2 hroom hfull
    · exact hlow x hx hhigh
  · exact h.seq_lt e ((Entry.sort_perm _).mem_iff.1 he)
  · exact ⟨shell_offer _ _ _, decisions_offer _ _ _, isSealed_offer _ _ _⟩

/-! ### What is refused -/

/-- **A reservoir refuses** an event whose priority is not finite, or for which there is no room,
with nothing of lower priority that could leave. -/
def Refuses (r : Reservoir E) (event : E) : Prop :=
  (HasPriority.priority event).isFinite → r.capacity ≤ r.size ∧
    ∀ x ∈ r.retained, ¬ HasPriority.priority x < HasPriority.priority event

theorem IsArranged.wouldAccept_eq_false_iff (h : r.IsArranged) (event : E) :
    r.wouldAccept (HasPriority.priority event) = false ↔ r.Refuses event := by
  rw [← Bool.not_eq_true, h.wouldAccept_iff, Refuses]
  push Not
  rfl

/-- What an event would become is not there yet. -/
theorem IsArranged.entryFor_notMem (h : r.IsArranged) (event : E) :
    r.entryFor event ∉ r.entries := fun hmem =>
  Nat.lt_irrefl _ ((h.answers event).later _ hmem)

/-- An event that is refused counts as a try, and the entries stay as they are. -/
theorem IsArranged.offer_of_refuses (h : r.IsArranged) (hopen : r.isSealed = false)
    (hrefuses : r.Refuses event) :
    r.offer (HasPriority.priority event) event = (.rejected event, r.tried) := by
  have hwont := (h.wouldAccept_eq_false_iff event).2 hrefuses
  rw [offer_of_open hopen, hwont, if_neg Bool.false_ne_true]

/-- **An open reservoir retains** what it does not refuse, and nothing else. -/
theorem IsArranged.entryFor_mem_offer_iff (h : r.IsArranged) (hopen : r.isSealed = false)
    (event : E) :
    r.entryFor event ∈ (r.offer (HasPriority.priority event) event).2.entries ↔
      ¬ r.Refuses event := by
  constructor
  · intro hmem hrefuses
    rw [h.offer_of_refuses hopen hrefuses] at hmem
    exact h.entryFor_notMem event hmem
  · intro hnot
    have hanswers := h.answers event
    rw [Refuses, Classical.not_imp] at hnot
    obtain ⟨hfinite, hplace⟩ := hnot
    rcases Nat.lt_or_ge r.size r.capacity with hroom | hfull
    · exact (hanswers.room hopen hfinite hroom).2.mem_of_joined List.mem_cons_self
    · have hhigher : ∃ x ∈ r.retained, HasPriority.priority x < HasPriority.priority event := by
        by_contra hnone
        push Not at hnone
        exact hplace ⟨hfull, hnone⟩
      obtain ⟨-, last, -, htrades⟩ := hanswers.higher hopen hfinite hfull hhigher
      exact htrades.mem_of_joined List.mem_cons_self

/-- The offer of an event is accepted if the reservoir does not refuse it. -/
theorem IsArranged.offer_fst_eq_accepted_iff (h : r.IsArranged) (hopen : r.isSealed = false)
    (event : E) : (r.offer (HasPriority.priority event) event).1 = .accepted ↔
      ¬ r.Refuses event := by
  rw [offer_of_open hopen, ← h.wouldAccept_eq_false_iff]
  cases r.wouldAccept (HasPriority.priority event) <;> simp

end Offers

end Reservoir

namespace Fleet

variable {ι E : Type} [DecidableEq ι] [HasPriority E]

/-- **Every reservoir in use answers** like this to every event, whatever the calls on it and the
merges from and into it before. -/
theorem answers_of_fresh (app service : ι → String) (capacity decidedLast target : ι → Nat)
    (steps : List (Step ι E)) (i : ι) (event : E) :
    let r := (fresh app service capacity decidedLast target).run steps i
    r.Answers event (r.offer (HasPriority.priority event) event).1
      (r.offer (HasPriority.priority event) event).2 :=
  (isRegular_run (isRegular_fresh app service capacity decidedLast target) steps
    i).toIsArranged.answers event

end Fleet

end Telemetry.Sampling
