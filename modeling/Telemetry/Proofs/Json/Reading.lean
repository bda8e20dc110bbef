import Telemetry.Proofs.Json.Numbers

/-!
# JSON is read back

What the printer writes is read again (`read?_render`), as `Json.reread` says: everything but some
numbers as itself.

| value | is read as |
|---|---|
| an integer that does not fit into 64 bits | a double |
| a double that is no number | `null` |
| an object that gives a name twice | the object with the last value of the name |
| any other | itself |

All rules are about a printed text with something after it, as it stands inside a larger value.
-/

namespace Telemetry.Json

variable {rest : List Char}

/-! ### Strings -/

/-- A control character without a short form. -/
theorem hex4?_unicodeEscape {code : Nat} (h : code < 32) :
    ∃ a b c d, (unicodeEscape code).toList = ['\\', 'u', a, b, c, d] ∧
      hex4? a b c d = some code := by
  have hall : ∀ code < 32, let cs := (unicodeEscape code).toList
      cs = ['\\', 'u', cs.getD 2 ' ', cs.getD 3 ' ', cs.getD 4 ' ', cs.getD 5 ' '] ∧
        hex4? (cs.getD 2 ' ') (cs.getD 3 ' ') (cs.getD 4 ' ') (cs.getD 5 ' ') = some code := by
    decide
  exact ⟨_, _, _, _, hall code h⟩

/-- A character that stands for itself. -/
theorem stringBody?_cons (done : List Char) {c : Char} (hquote : c ≠ '"') (hslash : c ≠ '\\')
    (hcontrol : ¬ c.toNat < 32) (rest : List Char) :
    stringBody? done (c :: rest) = stringBody? (c :: done) rest := by
  rw [stringBody?.eq_def]
  split
  next heq => exact absurd (List.cons.inj heq).1 hquote
  next heq => exact absurd (List.cons.inj heq).1 hslash
  next heq => exact absurd (List.cons.inj heq).1 hslash
  next heq =>
    obtain ⟨rfl, rfl⟩ := List.cons.inj heq
    exact if_neg hcontrol
  next heq => cases heq

/-- **An escaped character** is read as the character. -/
theorem stringBody?_escaped (done : List Char) (c : Char) (rest : List Char) :
    stringBody? done ((escaped c).toList ++ rest) = stringBody? (c :: done) rest := by
  unfold escaped
  split
  · simp [stringBody?, simpleEscape?]
  · simp [stringBody?, simpleEscape?]
  · simp [stringBody?, simpleEscape?]
  · simp [stringBody?, simpleEscape?]
  · simp [stringBody?, simpleEscape?]
  next hquote hslash _ _ _ =>
    split
    next hbackspace =>
      obtain rfl : c = '\x08' := Char.ext (UInt32.toNat_inj.1 hbackspace)
      simp [stringBody?, simpleEscape?]
    split
    next hfeed =>
      obtain rfl : c = '\x0c' := Char.ext (UInt32.toNat_inj.1 hfeed)
      simp [stringBody?, simpleEscape?]
    split
    next hcontrol =>
      obtain ⟨a, b, c', d, htext, hhex⟩ := hex4?_unicodeEscape hcontrol
      have hlow : ¬ 0xD800 ≤ c.toNat := by omega
      have hlow' : ¬ 0xDC00 ≤ c.toNat := by omega
      rw [htext]
      simp [stringBody?, hhex, hlow, hlow']
    next hplain =>
      rw [Char.toString_eq_singleton, String.toList_singleton]
      exact stringBody?_cons done hquote hslash hplain rest

/-- **A string** is read up to its closing quote. -/
theorem stringBody?_join (done cs rest : List Char) :
    stringBody? done ((String.join (cs.map escaped)).toList ++ '"' :: rest) =
      some (String.ofList (done.reverse ++ cs), rest) := by
  induction cs generalizing done with
  | nil =>
    rw [List.append_nil]
    exact stringBody?.eq_1 done rest
  | cons c cs ih =>
    rw [List.map_cons, String.join_cons, String.toList_append, List.append_assoc,
      stringBody?_escaped, ih, List.reverse_cons, List.append_assoc]
    rfl

theorem toList_quoted (s : String) :
    (quoted s).toList = '"' :: ((String.join (s.toList.map escaped)).toList ++ ['"']) := by
  rw [quoted, String.toList_append, String.toList_append]
  rfl

theorem stringBody?_quoted (s : String) (rest : List Char) :
    ∃ tail, (quoted s).toList ++ rest = '"' :: tail ∧ stringBody? [] tail = some (s, rest) := by
  refine ⟨_, by rw [toList_quoted, List.cons_append, List.append_assoc], ?_⟩
  have hread := stringBody?_join [] s.toList rest
  rwa [List.reverse_nil, List.nil_append, String.ofList_toList] at hread

/-! ### What is read -/

mutual

/-- **What the text of a value is read as.** -/
def reread : Json → Json
  | .null => .null
  | .bool b => .bool b
  | .int n => numberOf (decide (n < 0)) (Nat.toDigits 10 n.natAbs) [] false 0
  | .real x => if Double.isNumber x then .real x else .null
  | .str s => .str s
  | .arr items => .arr (rereadItems items)
  | .obj fields => .obj (rereadFields [] fields)

/-- The items of an array. -/
def rereadItems : List Json → List Json
  | [] => []
  | v :: items => reread v :: rereadItems items

/-- The fields of an object after those that have been read. -/
def rereadFields (done : List (String × Json)) : List (String × Json) → List (String × Json)
  | [] => done
  | (name, v) :: fields => rereadFields (setField name (reread v) done) fields

end

/-- A natural number that fits into 64 bits is read as itself. -/
theorem reread_ofNat {n : Nat} (h : n < UInt64.size) : (ofNat n).reread = ofNat n := by
  have hsign : decide ((n : Int) < 0) = false :=
    decide_eq_false (Int.not_lt.2 (Int.natCast_nonneg n))
  rw [ofNat, reread, hsign, numberOf, Int.natAbs_natCast, Text.digitsValue_toDigits]
  exact if_pos ⟨rfl, h, .inl rfl⟩

theorem reread_real {x : Float} (h : Double.isNumber x) : (real x).reread = real x := by
  rw [reread, if_pos h]

theorem rereadItems_eq_map (items : List Json) : rereadItems items = items.map reread := by
  induction items with
  | nil => rfl
  | cons v items ih => rw [rereadItems, ih, List.map_cons]

/-! ### Values -/

theorem skipBlanks_cons {c : Char} (h : c ∉ [' ', '\n', '\t', '\r']) (rest : List Char) :
    skipBlanks (c :: rest) = c :: rest := by
  refine if_neg fun hblank => h ?_
  simpa using hblank

/-- The first character of a value. -/
def isStart (c : Char) : Bool := c.isDigit || ['n', 't', 'f', '"', '[', '\x7b', '-'].contains c

theorem notMem_of_isStart {c : Char} (h : isStart c) : c ∉ [' ', '\n', '\t', '\r', ']'] := by
  have hall : [' ', '\n', '\t', '\r', ']'].all (!isStart ·) = true := by decide
  intro hmem
  have hnot := List.all_eq_true.1 hall c hmem
  rw [h] at hnot
  exact Bool.false_ne_true hnot

/-- A value that starts with a digit or a minus is a number. -/
theorem value?_of_number {c : Char} (h : c.isDigit ∨ c = '-') (bound : Nat) (rest : List Char) :
    value? (bound + 1) (c :: rest) = number? (c :: rest) := by
  have hall : ['n', 't', 'f', '"', '[', '\x7b', ' ', '\n', '\t', '\r'].all
    (fun c => !c.isDigit && c != '-') = true := by decide
  have hother : c ∉ ['n', 't', 'f', '"', '[', '\x7b', ' ', '\n', '\t', '\r'] := fun hmem => by
    have hnot := List.all_eq_true.1 hall c hmem
    rcases h with hdigit | rfl
    · rw [hdigit] at hnot
      exact Bool.false_ne_true hnot
    · exact absurd hnot (by decide)
  rw [value?, skipBlanks_cons fun hmem => hother (by simp at hmem ⊢; tauto)]
  split
  all_goals
    first
    | rfl
    | rename_i heq
      exact absurd (List.cons.inj heq).1 (by rintro rfl; exact hother (by decide))

/-- What is read as a number starts as one. -/
theorem exists_cons_of_number? {cs : List Char} {v : Json} (h : number? cs = some (v, rest)) :
    ∃ c tail, cs = c :: tail ∧ (c.isDigit ∨ c = '-') := by
  cases cs with
  | nil => cases h
  | cons c tail =>
    refine ⟨c, tail, rfl, Decidable.by_contra fun hnot => ?_⟩
    obtain ⟨hdigit, hminus⟩ := not_or.1 hnot
    have htake : takeMinus (c :: tail) = (false, c :: tail) := by
      unfold takeMinus
      split
      next heq => exact absurd (List.cons.inj heq).1 hminus
      next => rfl
    have hdigits : Text.takeDigits (c :: tail) = ([], c :: tail) := by
      rw [Text.takeDigits, List.takeWhile_cons_of_neg hdigit, List.dropWhile_cons_of_neg hdigit]
    rw [number?, htake] at h
    simp only [hdigits] at h
    cases h

/-- **The text of a number** is a value. -/
theorem value?_of_number? {cs : List Char} {v : Json} (bound : Nat)
    (h : number? cs = some (v, rest)) : value? (bound + 1) cs = some (v, rest) := by
  obtain ⟨c, tail, rfl, hstart⟩ := exists_cons_of_number? h
  rw [value?_of_number hstart, h]

theorem endsNumber_nil : EndsNumber [] := fun _ h => by cases h

theorem endsNumber_cons {c : Char} (h : c ∈ [',', ']', '\x7d']) (rest : List Char) :
    EndsNumber (c :: rest) := by
  have hall : [',', ']', '\x7d'].all (fun c => !c.isDigit && c != '.' && c != 'e' && c != 'E') =
    true := by decide
  intro c' hc'
  obtain rfl := Option.some.inj hc'
  simpa [and_assoc] using List.all_eq_true.1 hall c h

theorem text_of_not_isNumber {x : Float} (hx : Double.isNumber x = false) :
    Double.text .json x = "null" := by
  unfold Double.text
  split
  · split <;> rfl
  · rw [hx]
    rfl

/-- A value starts with no blank. -/
theorem exists_start (v : Json) : ∃ c cs, (render v).toList = c :: cs ∧ isStart c := by
  have hnumber : ∀ {cs : List Char} {v : Json}, number? cs = some (v, []) →
      ∃ c tail, cs = c :: tail ∧ isStart c := fun h => by
    obtain ⟨c, tail, rfl, hdigit | rfl⟩ := exists_cons_of_number? h
    · exact ⟨c, tail, rfl, Bool.or_eq_true_iff.2 (.inl hdigit)⟩
    · exact ⟨_, tail, rfl, rfl⟩
  cases v with
  | null => exact ⟨_, _, rfl, rfl⟩
  | bool b => cases b <;> exact ⟨_, _, rfl, rfl⟩
  | int n =>
    have hread := number?_toString endsNumber_nil n
    rw [List.append_nil] at hread
    exact hnumber hread
  | real x =>
    rw [render]
    cases hx : Double.isNumber x with
    | true =>
      have hread := number?_text hx endsNumber_nil
      rw [List.append_nil] at hread
      exact hnumber hread
    | false =>
      rw [text_of_not_isNumber hx]
      exact ⟨_, _, rfl, rfl⟩
  | str s => exact ⟨_, _, toList_quoted s, rfl⟩
  | arr items =>
    rw [render, String.toList_append, String.toList_append]
    exact ⟨_, _, rfl, rfl⟩
  | obj fields =>
    rw [render, String.toList_append, String.toList_append]
    exact ⟨_, _, rfl, rfl⟩

theorem toList_intercalate_cons (text text' : String) (texts : List String) :
    (String.intercalate "," (text :: text' :: texts)).toList =
      text.toList ++ ',' :: (String.intercalate "," (text' :: texts)).toList := by
  rw [String.intercalate_cons_cons, String.toList_append, String.toList_append, List.append_assoc]
  rfl

theorem length_render_pos (v : Json) : 0 < (render v).toList.length := by
  obtain ⟨c, cs, heq, -⟩ := exists_start v
  rw [heq]
  exact Nat.succ_pos _

theorem toList_renderField (name : String) (v : Json) :
    (quoted name ++ ":" ++ render v).toList = (quoted name).toList ++ ':' :: (render v).toList := by
  rw [String.toList_append, String.toList_append, List.append_assoc]
  rfl

theorem exists_start_items (v : Json) (items : List Json) :
    ∃ c cs, (String.intercalate "," (renderItems (v :: items))).toList = c :: cs ∧ isStart c := by
  obtain ⟨c, cs, htext, hstart⟩ := exists_start v
  cases items with
  | nil =>
    rw [renderItems, renderItems, String.intercalate_singleton]
    exact ⟨c, cs, htext, hstart⟩
  | cons v' items =>
    rw [renderItems, renderItems, toList_intercalate_cons, htext]
    exact ⟨c, _, rfl, hstart⟩

theorem exists_start_fields (field : String × Json) (fields : List (String × Json)) :
    ∃ cs, (String.intercalate "," (renderFields (field :: fields))).toList = '"' :: cs := by
  obtain ⟨name, v⟩ := field
  cases fields with
  | nil =>
    rw [renderFields, renderFields, String.intercalate_singleton, toList_renderField, toList_quoted]
    exact ⟨_, rfl⟩
  | cons field fields =>
    obtain ⟨name', v'⟩ := field
    rw [renderFields, renderFields, toList_intercalate_cons, toList_renderField, toList_quoted]
    exact ⟨_, rfl⟩

theorem toList_arr (items : List Json) : (render (.arr items)).toList =
    '[' :: ((String.intercalate "," (renderItems items)).toList ++ [']']) := by
  rw [render, String.toList_append, String.toList_append, List.append_assoc]
  rfl

theorem toList_obj (fields : List (String × Json)) : (render (.obj fields)).toList =
    '\x7b' :: ((String.intercalate "," (renderFields fields)).toList ++ ['\x7d']) := by
  rw [render, String.toList_append, String.toList_append, List.append_assoc]
  rfl

theorem value?_array {c : Char} (h : isStart c) (bound : Nat) (cs : List Char) :
    value? (bound + 1) ('[' :: c :: cs) = items? bound [] (c :: cs) := by
  have hother := notMem_of_isStart h
  rw [value?, skipBlanks_cons (by decide)]
  simp only [skipBlanks_cons fun hmem => hother (List.mem_append_left [']'] hmem)]
  split
  next heq => exact absurd (List.cons.inj heq).1 (by rintro rfl; exact hother (by decide))
  next => rfl

/-- **A field is read**, and more fields follow. -/
theorem fields?_more {name : String} {v : Json} {bound : Nat}
    (hvalue : value? bound ((render v).toList ++ ',' :: rest) = some (reread v, ',' :: rest))
    (done : List (String × Json)) :
    fields? (bound + 1) done ((quoted name ++ ":" ++ render v).toList ++ ',' :: rest) =
      fields? bound (setField name (reread v) done) rest := by
  rw [toList_renderField, List.append_assoc, List.cons_append]
  obtain ⟨tail, htext, hread⟩ := stringBody?_quoted name (':' :: ((render v).toList ++ ',' :: rest))
  rw [htext, fields?, skipBlanks_cons (by decide)]
  simp only [hread, skipBlanks_cons (show ':' ∉ [' ', '\n', '\t', '\r'] by decide), hvalue,
    skipBlanks_cons (show ',' ∉ [' ', '\n', '\t', '\r'] by decide)]

/-- **The last field is read.** -/
theorem fields?_last {name : String} {v : Json} {bound : Nat}
    (hvalue : value? bound ((render v).toList ++ '\x7d' :: rest) = some (reread v, '\x7d' :: rest))
    (done : List (String × Json)) :
    fields? (bound + 1) done ((quoted name ++ ":" ++ render v).toList ++ '\x7d' :: rest) =
      some (.obj (setField name (reread v) done), rest) := by
  rw [toList_renderField, List.append_assoc, List.cons_append]
  obtain ⟨tail, htext, hread⟩ :=
    stringBody?_quoted name (':' :: ((render v).toList ++ '\x7d' :: rest))
  rw [htext, fields?, skipBlanks_cons (by decide)]
  simp only [hread, skipBlanks_cons (show ':' ∉ [' ', '\n', '\t', '\r'] by decide), hvalue,
    skipBlanks_cons (show '\x7d' ∉ [' ', '\n', '\t', '\r'] by decide)]

theorem length_renderField (name : String) (v : Json) :
    (render v).toList.length < (quoted name ++ ":" ++ render v).toList.length := by
  rw [toList_renderField, List.length_append, List.length_cons]
  omega

mutual

/-- **A value is read up to its end.** -/
theorem value?_render : ∀ (v : Json) {rest : List Char} (bound : Nat), EndsNumber rest →
    (render v).toList.length ≤ bound + 1 →
    value? (bound + 1) ((render v).toList ++ rest) = some (reread v, rest)
  | .null, _, _, _, _ => rfl
  | .bool true, _, _, _, _ => rfl
  | .bool false, _, _, _, _ => rfl
  | .int n, _, _, hrest, _ => value?_of_number? _ (number?_toString hrest n)
  | .real x, rest, _, hrest, _ => by
    rw [render, reread]
    cases hx : Double.isNumber x with
    | true => exact value?_of_number? _ (number?_text hx hrest)
    | false =>
      rw [text_of_not_isNumber hx]
      rfl
  | .str s, rest, _, _, _ => by
    obtain ⟨tail, htext, hread⟩ := stringBody?_quoted s rest
    rw [render, reread, htext, value?, skipBlanks_cons (by decide)]
    simp only [hread, Option.map_some]
  | .arr [], _, _, _, _ => rfl
  | .arr (v :: items), rest, bound, _, hbound => by
    rw [toList_arr, List.length_cons, List.length_append, List.length_singleton] at hbound
    obtain ⟨bound, rfl⟩ := Nat.exists_eq_succ_of_ne_zero (show bound ≠ 0 by omega)
    have hitems := items?_render (v :: items) [] rest bound (List.cons_ne_nil _ _) (by omega)
    obtain ⟨c, cs, htext, hstart⟩ := exists_start_items v items
    rw [toList_arr, List.cons_append, List.append_assoc, List.singleton_append]
    rw [htext, List.cons_append] at hitems ⊢
    rw [value?_array hstart, hitems]
    rfl
  | .obj [], _, _, _, _ => rfl
  | .obj (field :: fields), rest, bound, _, hbound => by
    rw [toList_obj, List.length_cons, List.length_append, List.length_singleton] at hbound
    obtain ⟨bound, rfl⟩ := Nat.exists_eq_succ_of_ne_zero (show bound ≠ 0 by omega)
    have hfields := fields?_render (field :: fields) [] rest bound (List.cons_ne_nil _ _)
      (by omega)
    obtain ⟨cs, htext⟩ := exists_start_fields field fields
    rw [toList_obj, List.cons_append, List.append_assoc, List.singleton_append]
    rw [htext, List.cons_append] at hfields ⊢
    exact hfields

/-- The items of an array. -/
theorem items?_render : ∀ (items done : List Json) (rest : List Char) (bound : Nat),
    items ≠ [] → (String.intercalate "," (renderItems items)).toList.length ≤ bound →
    items? (bound + 1) done ((String.intercalate "," (renderItems items)).toList ++ ']' :: rest) =
      some (.arr (done.reverse ++ rereadItems items), rest)
  | [], _, _, _, hne, _ => absurd rfl hne
  | [v], done, rest, bound, _, hbound => by
    rw [renderItems, renderItems, String.intercalate_singleton] at hbound ⊢
    obtain ⟨bound, rfl⟩ := Nat.exists_eq_succ_of_ne_zero
      (Nat.ne_of_gt ((length_render_pos v).trans_le hbound))
    rw [items?, value?_render v bound (endsNumber_cons (by decide) rest) hbound]
    simp [skipBlanks, rereadItems]
  | v :: v' :: items, done, rest, bound, _, hbound => by
    rw [renderItems, renderItems, toList_intercalate_cons, ← renderItems] at hbound ⊢
    rw [List.length_append, List.length_cons] at hbound
    obtain ⟨bound, rfl⟩ := Nat.exists_eq_succ_of_ne_zero (show bound ≠ 0 by omega)
    rw [List.append_assoc, List.cons_append, items?,
      value?_render v bound (endsNumber_cons (by decide) _) (by omega)]
    have hrest := items?_render (v' :: items) (reread v :: done) rest bound (List.cons_ne_nil _ _)
      (by omega)
    simp only [skipBlanks_cons (show ',' ∉ [' ', '\n', '\t', '\r'] by decide)]
    rw [hrest, List.reverse_cons, List.append_assoc]
    rfl

/-- The fields of an object. -/
theorem fields?_render : ∀ (fields done : List (String × Json)) (rest : List Char) (bound : Nat),
    fields ≠ [] →
    (String.intercalate "," (renderFields fields)).toList.length ≤ bound →
    fields? (bound + 1) done
        ((String.intercalate "," (renderFields fields)).toList ++ '\x7d' :: rest) =
      some (.obj (rereadFields done fields), rest)
  | [], _, _, _, hne, _ => absurd rfl hne
  | [(name, v)], done, rest, bound, _, hbound => by
    rw [renderFields, renderFields, String.intercalate_singleton] at hbound ⊢
    have hlength := length_renderField name v
    obtain ⟨bound, rfl⟩ := Nat.exists_eq_succ_of_ne_zero (show bound ≠ 0 by omega)
    rw [fields?_last (value?_render v bound (endsNumber_cons (by decide) rest) (by omega))]
    rfl
  | (name, v) :: (name', v') :: fields, done, rest, bound, _, hbound => by
    rw [renderFields, renderFields, toList_intercalate_cons, ← renderFields] at hbound ⊢
    rw [List.length_append, List.length_cons] at hbound
    have hlength := length_renderField name v
    obtain ⟨bound, rfl⟩ := Nat.exists_eq_succ_of_ne_zero (show bound ≠ 0 by omega)
    have hrest := fields?_render ((name', v') :: fields)
      (setField name (reread v) done) rest bound (List.cons_ne_nil _ _) (by omega)
    rw [List.append_assoc, List.cons_append,
      fields?_more (value?_render v bound (endsNumber_cons (by decide) _) (by omega)), hrest]
    rfl

end

/-- **The text of a value is read back.** -/
theorem read?_render (v : Json) : read? (render v) = some (reread v) := by
  have hread := value?_render v (2 * (render v).toList.length + 1) endsNumber_nil
    (by omega)
  rw [List.append_nil] at hread
  rw [read?]
  simp only [hread]
  rfl

end Telemetry.Json
