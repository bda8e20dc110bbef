import Telemetry.Json.Printer

/-!
# JSON is written on one line

No text that the printer writes has a line break in it (`Json.isOneLine_render`): the breaks in
strings are escaped, and numbers and punctuation have none. So an output of JSON values with a
break after each can be taken apart again, whatever the values are (`split_lines`).
-/

namespace Telemetry

/-- **A text without line breaks.** -/
def IsOneLine (text : String) : Prop := '\n' ∉ text.toList

instance (text : String) : Decidable (IsOneLine text) := inferInstanceAs (Decidable (¬ _))

theorem IsOneLine.append {text text' : String} (h : IsOneLine text) (h' : IsOneLine text') :
    IsOneLine (text ++ text') := by
  rw [IsOneLine, String.toList_append, List.mem_append]
  exact fun hmem => hmem.elim h h'

theorem isOneLine_ofList {cs : List Char} (h : '\n' ∉ cs) : IsOneLine (String.ofList cs) := by
  rw [IsOneLine, String.toList_ofList]
  exact h

theorem isOneLine_join {texts : List String} (h : ∀ text ∈ texts, IsOneLine text) :
    IsOneLine (String.join texts) := by
  rw [IsOneLine, String.toList_join, List.mem_flatMap]
  exact fun ⟨text, hmem, hbreak⟩ => h text hmem hbreak

theorem isOneLine_intercalate {separator : String} (hseparator : IsOneLine separator)
    {texts : List String} (h : ∀ text ∈ texts, IsOneLine text) :
    IsOneLine (String.intercalate separator texts) := by
  induction texts with
  | nil =>
    rw [String.intercalate_nil]
    decide
  | cons text texts ih =>
    have htext := h text List.mem_cons_self
    cases texts with
    | nil => rwa [String.intercalate_singleton]
    | cons text' texts =>
      rw [String.intercalate_cons_cons]
      exact (htext.append hseparator).append (ih fun t ht => h t (List.mem_cons_of_mem _ ht))

theorem join_lines (texts : List String) : String.join (texts.map (· ++ "\n")) =
    String.intercalate (String.singleton '\n') (texts ++ [""]) := by
  induction texts with
  | nil =>
    rw [List.nil_append, String.intercalate_singleton]
    rfl
  | cons text texts ih =>
    rw [List.cons_append, String.intercalate_cons_of_ne_nil (by simp), ← ih, List.map_cons,
      String.join_cons]
    rfl

/-- **Lines with a break after each** can be taken apart again. -/
theorem split_lines {texts : List String} (h : ∀ text ∈ texts, IsOneLine text) :
    ((String.join (texts.map (· ++ "\n"))).split '\n').toList.map (·.copy) = texts ++ [""] := by
  rw [join_lines, String.toList_split_intercalate, if_neg (by simp)]
  intro text hmem
  rcases List.mem_append.1 hmem with hmem | hmem
  · exact h text hmem
  · rw [List.mem_singleton.1 hmem]
    decide

/-! ### Numbers -/

theorem break_not_mem_toDigits (n : Nat) : '\n' ∉ Nat.toDigits 10 n := fun hmem =>
  absurd (Nat.isDigit_of_mem_toDigits (by decide) (by decide) hmem) (by decide)

theorem break_not_mem_zeros (n : Nat) : '\n' ∉ List.replicate n '0' := fun hmem =>
  absurd (List.eq_of_mem_replicate hmem) (by decide)

theorem isOneLine_natToString (n : Nat) : IsOneLine (toString n) := by
  rw [Nat.toString_eq_ofList_toDigits]
  exact isOneLine_ofList (break_not_mem_toDigits n)

theorem isOneLine_intToString (n : Int) : IsOneLine (toString n) := by
  cases n with
  | ofNat n => exact isOneLine_natToString n
  | negSucc n => exact IsOneLine.append (by decide) (isOneLine_natToString (n + 1))

namespace Double

theorem isOneLine_plainText (d : Decimal) (keepsFraction : Bool) :
    IsOneLine (d.plainText keepsFraction) := by
  have hdigits := break_not_mem_toDigits d.digits
  unfold Decimal.plainText
  simp only
  split
  · have hwhole : IsOneLine
        (String.ofList (Nat.toDigits 10 d.digits ++ List.replicate d.exponent.toNat '0')) :=
      isOneLine_ofList fun hmem =>
        (List.mem_append.1 hmem).elim hdigits (break_not_mem_zeros _)
    split
    · exact hwhole.append (by decide)
    · exact hwhole
  · split
    · refine isOneLine_ofList fun hmem => ?_
      rcases List.mem_append.1 hmem with hwhole | hfraction
      · exact hdigits (List.mem_of_mem_take hwhole)
      · exact hdigits (List.mem_of_mem_drop
          ((List.mem_cons.1 hfraction).resolve_left (by decide)))
    · refine isOneLine_ofList fun hmem => ?_
      have hrest := (List.mem_cons.1 ((List.mem_cons.1 hmem).resolve_left (by decide))).resolve_left
        (by decide)
      exact (List.mem_append.1 hrest).elim (break_not_mem_zeros _) hdigits

theorem isOneLine_scientificText (d : Decimal) (signsExponent : Bool) :
    IsOneLine (d.scientificText signsExponent) := by
  have hdigits := break_not_mem_toDigits d.digits
  unfold Decimal.scientificText
  simp only
  refine IsOneLine.append (IsOneLine.append ?_ ?_) (isOneLine_intToString _)
  · generalize Nat.toDigits 10 d.digits = digits at hdigits
    match digits with
    | [] => decide
    | [c] => exact isOneLine_ofList hdigits
    | c :: c' :: rest =>
      refine isOneLine_ofList fun hmem => ?_
      rcases List.mem_cons.1 hmem with hfirst | hrest
      · exact hdigits (hfirst ▸ List.mem_cons_self)
      · exact hdigits (List.mem_cons_of_mem _ ((List.mem_cons.1 hrest).resolve_left (by decide)))
  · split <;> decide

/-- **A double** is written on one line, if the words of the style are. -/
theorem isOneLine_text {style : NumberStyle} (hnan : IsOneLine style.nan)
    (hinfinity : IsOneLine style.infinity) (hnegative : IsOneLine style.negativeInfinity)
    (x : Float) : IsOneLine (text style x) := by
  unfold text
  simp only
  split
  · split
    · exact hnegative
    · exact hinfinity
  · split
    · exact hnan
    · have hbody : ∀ d : Decimal, ∀ isPlain : Prop, [Decidable isPlain] → IsOneLine
          (if isPlain then d.plainText style.keepsFraction
            else d.scientificText style.signsExponent) := fun d isPlain _ => by
        split
        · exact isOneLine_plainText d _
        · exact isOneLine_scientificText d _
      split
      · exact IsOneLine.append (by decide) (hbody _ _)
      · exact hbody _ _

end Double

namespace Json

/-! ### Strings -/

theorem isOneLine_unicodeEscape {code : Nat} (h : code < 32) : IsOneLine (unicodeEscape code) := by
  have hall : ∀ code < 32, '\n' ∉ (unicodeEscape code).toList := by decide
  exact hall code h

/-- **A character is escaped** if it breaks the line. -/
theorem isOneLine_escaped (c : Char) : IsOneLine (escaped c) := by
  unfold escaped
  split
  case h_6 hbreak _ _ =>
    split
    · decide
    split
    · decide
    split
    · exact isOneLine_unicodeEscape ‹_›
    refine fun hmem => hbreak ?_
    rw [Char.toString_eq_singleton, String.toList_singleton] at hmem
    exact (List.mem_singleton.1 hmem).symm
  all_goals decide

theorem isOneLine_quoted (s : String) : IsOneLine (quoted s) := by
  refine IsOneLine.append (IsOneLine.append (by decide) (isOneLine_join fun text hmem => ?_))
    (by decide)
  obtain ⟨c, _, rfl⟩ := List.mem_map.1 hmem
  exact isOneLine_escaped c

/-! ### Values -/

mutual

/-- **A value is written on one line.** -/
theorem isOneLine_render : ∀ v : Json, IsOneLine (render v)
  | .null => by decide
  | .bool b => by cases b <;> decide
  | .int n => isOneLine_intToString n
  | .real x => Double.isOneLine_text (by decide) (by decide) (by decide) x
  | .str s => isOneLine_quoted s
  | .arr items => (IsOneLine.append (by decide) (isOneLine_intercalate (by decide)
      (isOneLine_renderItems items))).append (by decide)
  | .obj fields => (IsOneLine.append (by decide) (isOneLine_intercalate (by decide)
      (isOneLine_renderFields fields))).append (by decide)

theorem isOneLine_renderItems : ∀ items : List Json, ∀ text ∈ renderItems items, IsOneLine text
  | [], _, hmem => absurd hmem List.not_mem_nil
  | v :: rest, text, hmem => by
    rcases List.mem_cons.1 hmem with rfl | hmem
    · exact isOneLine_render v
    · exact isOneLine_renderItems rest text hmem

theorem isOneLine_renderFields :
    ∀ fields : List (String × Json), ∀ text ∈ renderFields fields, IsOneLine text
  | [], _, hmem => absurd hmem List.not_mem_nil
  | (name, v) :: rest, text, hmem => by
    rcases List.mem_cons.1 hmem with rfl | hmem
    · exact ((isOneLine_quoted name).append (by decide)).append (isOneLine_render v)
    · exact isOneLine_renderFields rest text hmem

end

end Json

end Telemetry
