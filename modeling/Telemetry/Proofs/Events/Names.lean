import Mathlib.Data.Finset.Card
import Telemetry.Events.Names

/-!
# What a name cache hands out

A cache keeps a list of names, the most recently used first, and nothing else of what has
happened to it. What it hands out can be told from the whole history all the same
(`NameCache.share_askAll`):

| since the name was last asked for | handed out |
|---|---|
| fewer other names than the cache holds, and less time than names last | the instance of then |
| more names or more time, or this is the first time | a new instance |

The history is a list of *uses*, the latest first. Of each name its latest use counts
(`Use.latest`), and the cache holds the first of these, as many as there is room for
(`NameCache.IsLeftBy`). That says where a use is found: behind as many others as there are names
that have been asked for since. Time does not come in here: a name that has expired keeps its
place until it is asked for again, and moves to the front then like any other.
-/

namespace Telemetry.Events

/-- A name that was asked for at a time, and the instance that was handed out. -/
structure Use where
  name : String
  time : Nat
  shared : SharedName

namespace Use

/-- What a cache keeps of a use. -/
def entry (u : Use) : CachedName := ⟨u.name, u.shared, u.time⟩

/-- The names that were asked for. -/
def names (uses : List Use) : Finset String := (uses.map (·.name)).toFinset

/-- The use whose instance is shared with a name at a time: the latest one of that name, unless as
many other names as a cache holds have been asked for since, or names do not last as long. -/
def shareable? (capacity lifetime : Nat) (uses : List Use) (name : String) (time : Nat) :
    Option Use :=
  (uses.find? (·.name = name)).filter fun u =>
    (names (uses.takeWhile (·.name ≠ name))).card < capacity ∧ time - u.time < lifetime

/-! ### The latest uses -/

/-- **Of each name the latest use.** -/
def latest : List Use → List Use
  | [] => []
  | u :: earlier => u :: (latest earlier).filter (·.name ≠ u.name)

variable {u : Use} {uses : List Use} {name : String}

theorem mem_names : name ∈ names uses ↔ ∃ u ∈ uses, u.name = name := by
  simp [names]

theorem names_latest : names (latest uses) = names uses := by
  induction uses with
  | nil => rfl
  | cons u earlier ih =>
    ext name
    have hmem : (∃ v ∈ latest earlier, v.name = name) ↔ ∃ v ∈ earlier, v.name = name := by
      rw [← mem_names, ih, mem_names]
    rw [mem_names, mem_names, latest]
    simp only [List.mem_cons, List.mem_filter, decide_eq_true_eq, exists_eq_or_imp]
    by_cases hname : u.name = name
    · simp only [hname, true_or]
    · rw [← hmem]
      refine or_congr Iff.rfl ⟨?_, ?_⟩
      · rintro ⟨v, ⟨hv, -⟩, rfl⟩
        exact ⟨v, hv, rfl⟩
      · rintro ⟨v, hv, rfl⟩
        exact ⟨v, ⟨hv, fun heq => hname heq.symm⟩, rfl⟩

theorem nodup_latest : ((latest uses).map (·.name)).Nodup := by
  induction uses with
  | nil => exact List.nodup_nil
  | cons u earlier ih =>
    rw [latest, List.map_cons, List.nodup_cons]
    refine ⟨fun hmem => ?_, ih.sublist (List.filter_sublist.map _)⟩
    obtain ⟨v, hv, hname⟩ := List.mem_map.1 hmem
    exact of_decide_eq_true (List.mem_filter.1 hv).2 hname

/-- There is one latest use for each name. -/
theorem length_latest : (latest uses).length = (names uses).card := by
  rw [← names_latest, names, List.toFinset_card_of_nodup nodup_latest, List.length_map]

theorem find?_latest : (latest uses).find? (·.name = name) = uses.find? (·.name = name) := by
  induction uses with
  | nil => rfl
  | cons u earlier ih =>
    rw [latest, List.find?_cons, List.find?_cons, ← ih]
    by_cases hname : u.name = name
    · simp only [hname, decide_true]
    -- what is filtered out has not the name that is looked for
    · simp only [hname, decide_false, List.find?_filter]
      congr 1
      funext v
      by_cases hv : v.name = name
      · simp [hv, Ne.symm hname]
      · simp [hv]

/-- The latest uses in front of that of a name are those of the names asked for since. -/
theorem takeWhile_latest :
    (latest uses).takeWhile (·.name ≠ name) = latest (uses.takeWhile (·.name ≠ name)) := by
  induction uses with
  | nil => rfl
  | cons u earlier ih =>
    by_cases hname : u.name = name
    · simp [latest, hname]
    · have hstop : ∀ v : Use, (!decide (v.name ≠ u.name) || decide (v.name ≠ name)) =
          decide (v.name ≠ name) := by
        intro v
        by_cases hv : v.name = name
        · simp [hv, Ne.symm hname]
        · simp [hv]
      have hkept : (u :: earlier).takeWhile (·.name ≠ name) =
          u :: earlier.takeWhile (·.name ≠ name) := by simp [hname]
      rw [hkept, latest, latest, List.takeWhile_cons_of_pos (by simpa using hname),
        List.takeWhile_filter, ← ih]
      simp only [hstop]

/-! ### The first of them -/

/-- What is looked for is among the first if it has few in front of it. -/
theorem find?_take (p : Use → Bool) (n : Nat) : (uses.take n).find? p =
    if (uses.takeWhile fun u => !p u).length < n then uses.find? p else none := by
  induction uses generalizing n with
  | nil =>
    rw [List.take_nil, List.find?_nil, ite_self]
  | cons u earlier ih =>
    cases n with
    | zero => rfl
    | succ n => cases hu : p u <;> simp [hu, ih]

/-- If names are told apart, it makes no difference whether one is taken out before or after the
list is cut to length. -/
theorem take_filter_take (h : (uses.map (·.name)).Nodup) (name : String) (n : Nat) :
    ((uses.take (n + 1)).filter (·.name ≠ name)).take n =
      (uses.filter (·.name ≠ name)).take n := by
  induction uses generalizing n with
  | nil => rfl
  | cons u earlier ih =>
    rw [List.map_cons, List.nodup_cons] at h
    by_cases hname : u.name = name
    -- no other use has the name
    · have hothers : ∀ v ∈ earlier, v.name ≠ name := fun v hv heq =>
        h.1 (List.mem_map.2 ⟨v, hv, heq.trans hname.symm⟩)
      rw [List.take_succ_cons, List.filter_cons_of_neg (by simp [hname]),
        List.filter_cons_of_neg (by simp [hname]),
        List.filter_eq_self.2 fun v hv => by simpa using hothers v (List.mem_of_mem_take hv),
        List.filter_eq_self.2 fun v hv => by simpa using hothers v hv,
        List.take_take, Nat.min_self]
    · rw [List.take_succ_cons, List.filter_cons_of_pos (by simpa using hname),
        List.filter_cons_of_pos (by simpa using hname)]
      cases n with
      | zero => rfl
      | succ n => rw [List.take_succ_cons, List.take_succ_cons, ih h.2]

end Use

/-! ### What uses leave in the cache -/

namespace NameCache

/-- Asks for a name at a time, and writes down the use. -/
def ask (past : List Use × NameCache) (request : String × Nat) : List Use × NameCache :=
  let (shared, c) := past.2.share request.1 request.2
  (⟨request.1, request.2, shared⟩ :: past.1, c)

/-- **Asks for names one after the other**: the uses of the cache, latest first, and what has become
of it. -/
def askAll (c : NameCache) (requests : List (String × Nat)) : List Use × NameCache :=
  requests.foldl ask ([], c)

/-- **A cache that some uses have left.** -/
structure IsLeftBy (uses : List Use) (c : NameCache) : Prop where
  capacity_pos : 0 < c.capacity
  entries : c.entries = ((Use.latest uses).take c.capacity).map Use.entry
  text : ∀ u ∈ uses, u.shared.text = u.name
  number : ∀ u ∈ uses, u.shared.number < c.nextHandle

section IsLeftBy

variable {uses : List Use} {c : NameCache}

theorem isLeftBy_empty (capacity firstHandle ticksPerSecond : Nat) :
    (empty capacity firstHandle ticksPerSecond).IsLeftBy [] where
  capacity_pos := Nat.lt_of_lt_of_le Nat.one_pos (Nat.le_max_right capacity 1)
  entries := by rw [Use.latest, List.take_nil, List.map_nil, empty]
  text _ hu := absurd hu List.not_mem_nil
  number _ hu := absurd hu List.not_mem_nil

/-- **What the cache finds** of a name. -/
theorem IsLeftBy.find?_entries (h : c.IsLeftBy uses) (name : String) :
    c.entries.find? (·.name = name) =
      if (Use.names (uses.takeWhile (·.name ≠ name))).card < c.capacity then
        (uses.find? (·.name = name)).map Use.entry
      else none := by
  have hbefore : ((Use.latest uses).takeWhile fun u => !decide (u.name = name)).length =
      (Use.names (uses.takeWhile (·.name ≠ name))).card := by
    rw [← Use.length_latest, ← Use.takeWhile_latest]
    simp only [ne_eq, decide_not]
  rw [h.entries, List.find?_map]
  change ((List.take _ _).find? fun u : Use => decide (u.name = name)).map Use.entry = _
  rw [Use.find?_take, hbefore, Use.find?_latest]
  split <;> rfl

/-- **What is handed out**: the instance of the use that can be shared, or a new one. -/
theorem IsLeftBy.share_cases (h : c.IsLeftBy uses) (name : String) (time : Nat) :
    (∃ u ∈ uses, u.name = name ∧
      Use.shareable? c.capacity c.lifetime uses name time = some u ∧
      c.share name time = (u.shared, c.touch (Use.entry ⟨name, time, u.shared⟩))) ∨
    (Use.shareable? c.capacity c.lifetime uses name time = none ∧
      c.share name time = c.renew name time) := by
  rw [share, h.find?_entries, Use.shareable?]
  cases hfind : uses.find? (·.name = name) with
  | none => exact .inr ⟨rfl, by simp⟩
  | some u =>
    have hname : u.name = name := by simpa using List.find?_some hfind
    -- which names have been asked for since makes no difference, only how many
    generalize (Use.names (uses.takeWhile (·.name ≠ name))).card = others
    by_cases hroom : others < c.capacity
    · by_cases hfresh : time - u.time < c.lifetime
      · refine .inl ⟨u, List.mem_of_find?_eq_some hfind, hname, ?_, ?_⟩
        · simp [hroom, hfresh]
        · simp [hroom, hfresh, isFresh, Use.entry, hname]
      · refine .inr ⟨?_, ?_⟩
        · simpa using fun _ => Nat.le_of_not_lt hfresh
        · simp [hroom, hfresh, isFresh, Use.entry]
    · refine .inr ⟨?_, ?_⟩
      · simp [hroom]
      · simp [hroom]

/-- **A use goes in front.** -/
theorem IsLeftBy.touch (h : c.IsLeftBy uses) (u : Use) (htext : u.shared.text = u.name)
    {next : Nat} (hle : c.nextHandle ≤ next) (hnumber : u.shared.number < next) :
    ({ c with nextHandle := next }.touch u.entry).IsLeftBy (u :: uses) where
  capacity_pos := h.capacity_pos
  entries := by
    obtain ⟨n, hn⟩ := Nat.exists_eq_add_one_of_ne_zero (Nat.ne_of_gt h.capacity_pos)
    change (u.entry :: c.entries.filter fun e => e.name ≠ u.name).take c.capacity = _
    change _ = ((Use.latest (u :: uses)).take c.capacity).map Use.entry
    rw [h.entries, hn, Use.latest, List.take_succ_cons, List.take_succ_cons, List.map_cons,
      List.filter_map, ← List.map_take, ← Use.take_filter_take Use.nodup_latest]
    rfl
  text v hv := by
    rcases List.mem_cons.1 hv with rfl | hv
    · exact htext
    · exact h.text v hv
  number v hv := by
    rcases List.mem_cons.1 hv with rfl | hv
    · exact hnumber
    · exact Nat.lt_of_lt_of_le (h.number v hv) hle

/-- **What is handed out is right**, and leaves the cache to the next. -/
theorem IsLeftBy.share (h : c.IsLeftBy uses) (name : String) (time : Nat) :
    (c.share name time).1.text = name ∧
      (match Use.shareable? c.capacity c.lifetime uses name time with
        | some u => (c.share name time).1 = u.shared
        | none => ∀ u ∈ uses, (c.share name time).1.number ≠ u.shared.number) ∧
      (c.share name time).2.IsLeftBy (⟨name, time, (c.share name time).1⟩ :: uses) ∧
      (c.share name time).2.capacity = c.capacity ∧
      (c.share name time).2.lifetime = c.lifetime := by
  rcases h.share_cases name time with ⟨u, hu, rfl, hshareable, hshare⟩ | ⟨hshareable, hshare⟩
  · rw [hshareable, hshare]
    have htext := h.text u hu
    exact ⟨htext, rfl, h.touch ⟨u.name, time, u.shared⟩ htext (Nat.le_refl _) (h.number u hu),
      rfl, rfl⟩
  · rw [hshareable, hshare]
    refine ⟨rfl, fun u hu => Nat.ne_of_gt (h.number u hu), ?_, rfl, rfl⟩
    exact h.touch ⟨name, time, ⟨name, c.nextHandle⟩⟩ rfl (Nat.le_succ _) (Nat.lt_succ_self _)

theorem IsLeftBy.size (h : c.IsLeftBy uses) : c.size = min c.capacity (Use.names uses).card := by
  rw [NameCache.size, h.entries, List.length_map, List.length_take, Use.length_latest]

theorem IsLeftBy.askAll (h : c.IsLeftBy uses) (requests : List (String × Nat)) :
    (requests.foldl ask (uses, c)).2.IsLeftBy (requests.foldl ask (uses, c)).1 ∧
      (requests.foldl ask (uses, c)).2.capacity = c.capacity ∧
      (requests.foldl ask (uses, c)).2.lifetime = c.lifetime := by
  induction requests generalizing uses c with
  | nil => exact ⟨h, rfl, rfl⟩
  | cons request requests ih =>
    obtain ⟨-, -, hnext, hcapacity, hlifetime⟩ := h.share request.1 request.2
    obtain ⟨hall, hcapacity', hlifetime'⟩ := ih hnext
    exact ⟨hall, hcapacity'.trans hcapacity, hlifetime'.trans hlifetime⟩

end IsLeftBy

/-- **Least recently used, and not for long.** Whatever a new cache has been asked for before, and
whatever the clock says: it hands out an instance with the name for its text; the instance of the
latest use of the name if that can be shared, and otherwise one that it has never handed out. It
holds one entry for each name so far, as many as there is room for. -/
theorem share_askAll (capacity firstHandle ticksPerSecond : Nat) (requests : List (String × Nat))
    (name : String) (time : Nat) :
    let past := (empty capacity firstHandle ticksPerSecond).askAll requests
    let (shared, c) := past.2.share name time
    shared.text = name ∧
      (match Use.shareable? (max capacity 1) (300 * ticksPerSecond) past.1 name time with
        | some u => shared = u.shared
        | none => ∀ u ∈ past.1, shared.number ≠ u.shared.number) ∧
      c.size = min (max capacity 1) (insert name (Use.names past.1)).card := by
  intro past
  obtain ⟨hleft, hcapacity, hlifetime⟩ :=
    (isLeftBy_empty capacity firstHandle ticksPerSecond).askAll requests
  change past.2.IsLeftBy past.1 at hleft
  change past.2.capacity = max capacity 1 at hcapacity
  change past.2.lifetime = 300 * ticksPerSecond at hlifetime
  obtain ⟨htext, hshared, hnext, hsame, -⟩ := hleft.share name time
  rw [hcapacity, hlifetime] at hshared
  refine ⟨htext, hshared, ?_⟩
  change (past.2.share name time).2.size = _
  rw [hnext.size, hsame, hcapacity]
  congr 2
  simp [Use.names]

/-- Room for two names, at one tick a second: the third name takes the place of the second, as the
first one has been asked for in between. It is shared until it has not been for five minutes. -/
example : ((empty 2 0 1).askAll [("a", 0), ("b", 9), ("a", 10), ("c", 11), ("a", 309), ("b", 310),
    ("a", 608), ("a", 908)]).1.reverse.map (·.shared.number) = [0, 1, 0, 2, 0, 3, 0, 4] := by
  decide

end NameCache

end Telemetry.Events
