import Telemetry.Events.Backlog
import Mathlib.Data.List.Basic
import Mathlib.Data.List.Pairwise
import Mathlib.Data.Nat.Init

/-!
# A backlog that several harvests share

While one harvest is sending a batch, the harvest of another application may take the next one.
So several batches can be in flight, and those whose sends fail come back in any order.
`Backlog.Trace` follows such a use call by call: what has been pushed, and what is in flight.

Pushing puts a batch behind all others, and taking one takes the oldest: both leave the queue in the
order of arrival. A batch that comes back goes to the front of whatever waits there by then. So
the order holds exactly as long as every batch comes back to later ones (`Trace.IsTimely`):

| sends | batches come back |
|---|---|
| are nested: the inner one ends before the outer | to later ones (`Trace.IsEnclosed.isTimely`) |
| cross: of two in flight, the older comes back first | the younger one, to the older (`crossing`) |
-/

namespace Telemetry.Events.Backlog

variable {β : Type}

/-- **What is waiting after a batch has come back**: that batch first, and behind it what waited
before, but for the newest one if there are too many now. -/
theorem queue_requeue (b : Backlog β) (batch : β) : (b.requeue batch).2.queue =
    batch :: if max b.capacity 1 < b.queue.length + 1 then b.queue.dropLast else b.queue := by
  unfold requeue
  simp only [List.length_cons]
  split
  next hmany =>
    have hne : b.queue ≠ [] := fun hnil => by
      rw [hnil, List.length_nil] at hmany
      omega
    exact List.dropLast_cons_of_ne_nil hne
  next => rfl

theorem tail_requeue_sublist (b : Backlog β) (batch : β) :
    (b.requeue batch).2.queue.tail.Sublist b.queue := by
  rw [queue_requeue, List.tail_cons]
  split
  · exact List.dropLast_sublist b.queue
  · exact List.Sublist.refl b.queue

/-- What is done to a backlog. -/
inductive Call (β : Type)
  | push (batch : β)
  /-- Takes the oldest batch, if there is any. -/
  | pop
  | requeue (batch : β)
  | withCapacity (capacity : Nat)

/-- A backlog in use. -/
structure Trace (β : Type) where
  backlog : Backlog β
  /-- The batches pushed so far, earliest first, with those that were turned away. -/
  pushed : List β := []
  /-- The batches taken and not put back, latest first. -/
  inFlight : List β := []
  /-- Those in flight that can still come back if sends are nested: a batch that comes back leaves
  behind all that were taken after it. -/
  enclosing : List β := []

namespace Trace

/-- A new backlog. -/
def start (capacity : Nat) : Trace β where
  backlog := { capacity := capacity }

/-- **One batch arrived before another**: it was pushed first. -/
def Earlier [DecidableEq β] (t : Trace β) (a b : β) : Prop :=
  t.pushed.idxOf a < t.pushed.idxOf b

/-- **The queue lists its batches in the order in which they were first pushed.** -/
def IsInOrder [DecidableEq β] (t : Trace β) : Prop := t.backlog.queue.Pairwise t.Earlier

variable [DecidableEq β]

instance (t : Trace β) (a b : β) : Decidable (t.Earlier a b) :=
  inferInstanceAs (Decidable (_ < _))

instance (t : Trace β) : Decidable t.IsInOrder :=
  inferInstanceAs (Decidable (t.backlog.queue.Pairwise t.Earlier))

/-- What comes of a call. -/
def perform (t : Trace β) : Call β → Trace β
  | .push batch =>
    { t with
      backlog := (t.backlog.push batch).toOption.getD t.backlog
      pushed := t.pushed ++ [batch] }
  | .pop =>
    match t.backlog.pop? with
    | some (batch, backlog) =>
      { t with
        backlog := backlog
        inFlight := batch :: t.inFlight
        enclosing := batch :: t.enclosing }
    | none => t
  | .requeue batch =>
    { t with
      backlog := (t.backlog.requeue batch).2
      inFlight := t.inFlight.erase batch
      enclosing := (t.enclosing.dropWhile (· ≠ batch)).tail }
  | .withCapacity capacity => { t with backlog := t.backlog.withCapacity capacity }

/-- What comes of some calls. -/
def performAll (t : Trace β) (calls : List (Call β)) : Trace β := calls.foldl perform t

/-- Something holds of each call, where it is made. -/
def Each (p : Trace β → Call β → Prop) (t : Trace β) : List (Call β) → Prop
  | [] => True
  | c :: rest => p t c ∧ (t.perform c).Each p rest

/-- A pushed batch is a new one, and a batch that is put back was taken and not put back yet. -/
def Allows (t : Trace β) : Call β → Prop
  | .push batch => batch ∉ t.pushed
  | .requeue batch => batch ∈ t.inFlight
  | _ => True

/-- **A batch comes back to later ones.** -/
def IsTimely (t : Trace β) : Call β → Prop
  | .requeue batch => ∀ other ∈ (t.backlog.requeue batch).2.queue.tail, t.Earlier batch other
  | _ => True

/-- **Sends are nested**: a batch comes back only if none that was taken before has meanwhile. -/
def IsNested (t : Trace β) : Call β → Prop
  | .requeue batch => batch ∈ t.enclosing
  | _ => True

/-! ### One call -/

/-- Whatever waits, or is in flight, has been pushed. -/
structure IsSound (t : Trace β) : Prop where
  queue : ∀ batch ∈ t.backlog.queue, batch ∈ t.pushed
  inFlight : ∀ batch ∈ t.inFlight, batch ∈ t.pushed
  enclosing : ∀ batch ∈ t.enclosing, batch ∈ t.pushed

variable {t : Trace β} {c : Call β} {calls : List (Call β)} {batch : β}

theorem queue_push (t : Trace β) (batch : β) :
    (t.perform (.push batch)).backlog.queue = t.backlog.queue ∨
      (t.perform (.push batch)).backlog.queue = t.backlog.queue ++ [batch] := by
  change ((t.backlog.push batch).toOption.getD t.backlog).queue = _ ∨
    ((t.backlog.push batch).toOption.getD t.backlog).queue = _
  rw [push]
  split
  · exact .inl rfl
  · exact .inr rfl

/-- Taking a batch moves it from the front of the queue to those in flight. -/
theorem pop_cases (t : Trace β) : t.perform .pop = t ∨ ∃ batch,
    t.backlog.queue = batch :: (t.perform .pop).backlog.queue ∧
      (t.perform .pop).pushed = t.pushed ∧ (t.perform .pop).inFlight = batch :: t.inFlight ∧
      (t.perform .pop).enclosing = batch :: t.enclosing := by
  rw [perform, pop?]
  cases t.backlog.queue with
  | nil => exact .inl rfl
  | cons batch rest => exact .inr ⟨batch, rfl, rfl, rfl, rfl⟩

theorem IsSound.perform (h : t.IsSound) (hc : t.Allows c) : (t.perform c).IsSound := by
  cases c with
  | push batch =>
    refine ⟨fun other hm => ?_, fun other hm => List.mem_append_left _ (h.inFlight other hm),
      fun other hm => List.mem_append_left _ (h.enclosing other hm)⟩
    rcases t.queue_push batch with hqueue | hqueue
    · rw [hqueue] at hm
      exact List.mem_append_left _ (h.queue other hm)
    · rw [hqueue] at hm
      rcases List.mem_append.1 hm with hm | hm
      · exact List.mem_append_left _ (h.queue other hm)
      · exact List.mem_append_right _ hm
  | pop =>
    rcases t.pop_cases with hsame | ⟨batch, hqueue, hpushed, hinFlight, henclosing⟩
    · rwa [hsame]
    · have hbatch := h.queue batch (hqueue ▸ List.mem_cons_self)
      have htaken : ∀ {batches : List β}, (∀ other ∈ batches, other ∈ t.pushed) →
          ∀ other ∈ batch :: batches, other ∈ t.pushed := fun hall other hm => by
        rcases List.mem_cons.1 hm with rfl | hm
        · exact hbatch
        · exact hall other hm
      refine ⟨?_, ?_, ?_⟩
      · rw [hpushed]
        exact fun other hm => h.queue other (hqueue ▸ List.mem_cons_of_mem batch hm)
      · rw [hpushed, hinFlight]
        exact htaken h.inFlight
      · rw [hpushed, henclosing]
        exact htaken h.enclosing
  | requeue batch =>
    refine ⟨fun other hm => ?_, fun other hm => h.inFlight other (List.mem_of_mem_erase hm),
      fun other hm => h.enclosing other ?_⟩
    · change other ∈ (t.backlog.requeue batch).2.queue at hm
      have htail := t.backlog.tail_requeue_sublist batch
      rw [queue_requeue] at hm htail
      rcases List.mem_cons.1 hm with rfl | hm
      · exact h.inFlight other hc
      · exact h.queue other (htail.subset hm)
    · exact (List.dropWhile_sublist _).subset (List.mem_of_mem_tail hm)
  | withCapacity capacity => exact ⟨h.queue, h.inFlight, h.enclosing⟩

/-- A batch that is pushed changes nothing about those pushed before. -/
theorem earlier_push {a b : β} (ha : a ∈ t.pushed) (hb : b ∈ t.pushed) (batch : β) :
    (t.perform (.push batch)).Earlier a b ↔ t.Earlier a b := by
  change (t.pushed ++ [batch]).idxOf a < (t.pushed ++ [batch]).idxOf b ↔ _
  rw [List.idxOf_append_of_mem ha, List.idxOf_append_of_mem hb]
  rfl

/-- A new batch arrives after all others. -/
theorem earlier_pushed {a : β} (ha : a ∈ t.pushed) (hbatch : batch ∉ t.pushed) :
    (t.perform (.push batch)).Earlier a batch := by
  change (t.pushed ++ [batch]).idxOf a < (t.pushed ++ [batch]).idxOf batch
  rw [List.idxOf_append_of_mem ha, List.idxOf_append_of_notMem hbatch]
  exact Nat.lt_add_right _ (List.idxOf_lt_length_iff.2 ha)

/-- **A new batch goes behind all others**, whatever stands before the queue. -/
theorem pairwise_push (front : List β)
    (horder : (front ++ t.backlog.queue).Pairwise t.Earlier)
    (hpushed : ∀ other ∈ front ++ t.backlog.queue, other ∈ t.pushed) (hbatch : batch ∉ t.pushed) :
    (front ++ (t.perform (.push batch)).backlog.queue).Pairwise
      (t.perform (.push batch)).Earlier := by
  have hkept : (front ++ t.backlog.queue).Pairwise (t.perform (.push batch)).Earlier :=
    horder.imp_of_mem fun ha hb hab => (earlier_push (hpushed _ ha) (hpushed _ hb) batch).2 hab
  rcases t.queue_push batch with hqueue | hqueue
  · rwa [hqueue]
  · rw [hqueue, ← List.append_assoc]
    refine List.pairwise_append.2 ⟨hkept, List.pairwise_singleton _ _, fun a ha b hb => ?_⟩
    rw [List.mem_singleton.1 hb]
    exact earlier_pushed (hpushed a ha) hbatch

/-- **A call leaves the queue in order exactly if it is timely.** -/
theorem isInOrder_perform_iff (h : t.IsSound) (horder : t.IsInOrder) (hc : t.Allows c) :
    (t.perform c).IsInOrder ↔ t.IsTimely c := by
  cases c with
  | push batch => exact iff_of_true (pairwise_push [] horder h.queue hc) trivial
  | pop =>
    refine iff_of_true ?_ trivial
    rcases t.pop_cases with hsame | ⟨batch, hqueue, hpushed, -⟩
    · rwa [hsame]
    · rw [IsInOrder, hqueue] at horder
      unfold IsInOrder Earlier
      rw [hpushed]
      exact (List.pairwise_cons.1 horder).2
  | requeue batch =>
    have hrest := horder.sublist (t.backlog.tail_requeue_sublist batch)
    change (t.backlog.requeue batch).2.queue.Pairwise t.Earlier ↔
      ∀ other ∈ (t.backlog.requeue batch).2.queue.tail, t.Earlier batch other
    rw [queue_requeue, List.tail_cons] at hrest ⊢
    exact List.pairwise_cons.trans (and_iff_left hrest)
  | withCapacity capacity => exact iff_of_true horder trivial

/-! ### Nested sends -/

/-- **The batches that may still come back and those that wait are in order together**: what was
taken last comes right before the queue. -/
def IsEnclosed (t : Trace β) : Prop :=
  (t.enclosing.reverse ++ t.backlog.queue).Pairwise t.Earlier

theorem IsEnclosed.isTimely (h : t.IsEnclosed) (hc : t.IsNested c) : t.IsTimely c := by
  cases c with
  | requeue batch =>
    intro other hm
    refine (List.pairwise_append.1 h).2.2 batch (List.mem_reverse.2 hc) other ?_
    exact (t.backlog.tail_requeue_sublist batch).subset hm
  | _ => trivial

theorem IsEnclosed.perform (h : t.IsEnclosed) (hsound : t.IsSound) (hallowed : t.Allows c)
    (hc : t.IsNested c) : (t.perform c).IsEnclosed := by
  cases c with
  | push batch =>
    refine pairwise_push _ h (fun other hm => ?_) hallowed
    rcases List.mem_append.1 hm with hm | hm
    · exact hsound.enclosing other (List.mem_reverse.1 hm)
    · exact hsound.queue other hm
  | pop =>
    rcases t.pop_cases with hsame | ⟨batch, hqueue, hpushed, -, henclosing⟩
    · rwa [hsame]
    · rw [IsEnclosed, hqueue] at h
      unfold IsEnclosed Earlier
      rw [hpushed, henclosing, List.reverse_cons, List.append_assoc]
      exact h
  | requeue batch =>
    -- the batch comes first in what is left of those in flight
    obtain ⟨outer, hdrop, hsub⟩ : ∃ outer, t.enclosing.dropWhile (· ≠ batch) = batch :: outer ∧
        (outer.reverse ++ [batch]).Sublist t.enclosing.reverse := by
      obtain ⟨inner, outer, hsplit, hnew⟩ := List.eq_append_cons_of_mem hc
      refine ⟨outer, ?_, ?_⟩
      · rw [hsplit, List.dropWhile_append_of_pos, List.dropWhile_cons_of_neg (by simp)]
        intro other hm
        exact decide_eq_true fun heq => hnew (heq ▸ hm)
      · rw [hsplit, List.reverse_append, List.reverse_cons]
        exact List.sublist_append_left _ _
    have hfront := h.sublist (hsub.append (t.backlog.tail_requeue_sublist batch))
    change ((t.enclosing.dropWhile (· ≠ batch)).tail.reverse ++
      (t.backlog.requeue batch).2.queue).Pairwise t.Earlier
    rw [hdrop, List.tail_cons]
    rw [List.append_assoc] at hfront
    rw [queue_requeue] at hfront ⊢
    exact hfront
  | withCapacity capacity => exact h

theorem each_isTimely (h : t.IsEnclosed) (hsound : t.IsSound) (hallowed : t.Each Allows calls)
    (hnested : t.Each IsNested calls) : t.Each IsTimely calls := by
  induction calls generalizing t with
  | nil => trivial
  | cons c rest ih =>
    exact ⟨h.isTimely hnested.1, ih (h.perform hsound hallowed.1 hnested.1)
      (hsound.perform hallowed.1) hallowed.2 hnested.2⟩

/-! ### Any calls -/

theorem isInOrder_performAll_iff (h : t.IsSound) (horder : t.IsInOrder)
    (hallowed : t.Each Allows calls) :
    (∀ k, (t.performAll (calls.take k)).IsInOrder) ↔ t.Each IsTimely calls := by
  induction calls generalizing t with
  | nil => exact iff_of_true (fun k => by rwa [List.take_nil]) trivial
  | cons c rest ih =>
    have hone := isInOrder_perform_iff h horder hallowed.1
    have hrest := fun hnext => ih (h.perform hallowed.1) hnext hallowed.2
    rw [← Nat.and_forall_add_one]
    constructor
    · rintro ⟨-, hall⟩
      have hnext : (t.perform c).IsInOrder := hall 0
      exact ⟨hone.1 hnext, (hrest hnext).1 hall⟩
    · rintro ⟨htimely, htail⟩
      exact ⟨horder, (hrest (hone.2 htimely)).2 htail⟩

/-- **When the queue keeps the order of arrival.** Whatever is pushed, taken and put back, and
however the capacity changes, the queue lists its batches in the order in which they were first
pushed at every point if and only if each batch that is put back comes back to later ones. If
sends are nested, it does. -/
theorem isInOrder_iff_timely (capacity : Nat) (calls : List (Call β))
    (hallowed : (start capacity).Each Allows calls) :
    ((∀ k, ((start capacity).performAll (calls.take k)).IsInOrder) ↔
      (start capacity).Each IsTimely calls) ∧
    ((start capacity).Each IsNested calls →
      ∀ k, ((start capacity).performAll (calls.take k)).IsInOrder) := by
  have hnone : ∀ batch ∈ ([] : List β), batch ∈ ([] : List β) := fun _ hm => hm
  have hsound : (start capacity : Trace β).IsSound := ⟨hnone, hnone, hnone⟩
  have hiff := isInOrder_performAll_iff hsound List.Pairwise.nil hallowed
  exact ⟨hiff, fun hnested => hiff.2 (each_isTimely List.Pairwise.nil hsound hallowed hnested)⟩

/-- Of two nested sends, the outer one fails after the inner one has. -/
def nesting : List (Call Nat) :=
  [.push 1, .push 2, .push 3, .pop, .pop, .requeue 2, .withCapacity 1, .requeue 1]

theorem isInOrder_nesting : (∀ k, ((start 3).performAll (nesting.take k)).IsInOrder) ∧
    ((start 3).performAll nesting).backlog.queue = [1, 2] := by
  have hallowed : (start 3).Each Allows nesting := by
    simp [nesting, Each, Allows, perform, start, push, pop?, requeue, size, Except.toOption]
  have hnested : (start 3).Each IsNested nesting := by
    simp [nesting, Each, IsNested, perform, start, push, pop?, requeue, size, Except.toOption]
  exact ⟨(isInOrder_iff_timely 3 nesting hallowed).2 hnested, by decide⟩

/-- Two batches are in flight, and the older one comes back first. -/
def crossing : List (Call Nat) := [.push 1, .push 2, .pop, .pop, .requeue 1, .requeue 2]

/-- **Crossing sends leave the queue out of order.** -/
theorem not_isInOrder_crossing : (start 25).Each Allows crossing ∧
    ((start 25).performAll crossing).pushed = [1, 2] ∧
    ((start 25).performAll crossing).backlog.queue = [2, 1] ∧
    ¬ ((start 25).performAll crossing).IsInOrder := by
  refine ⟨?_, by decide, by decide, by decide⟩
  simp [crossing, Each, Allows, perform, start, push, pop?, requeue, size, Except.toOption]

end Trace

end Telemetry.Events.Backlog
