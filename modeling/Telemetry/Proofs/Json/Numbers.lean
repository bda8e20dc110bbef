import Telemetry.Json.Printer
import Telemetry.Json.Reader
import Telemetry.Proofs.Double.Shortest
import Telemetry.Proofs.Text.Digits

/-!
# Numbers in JSON are read back

A number is read from the front of a text, up to what cannot go on with it (`EndsNumber`). Its text
is a sign, some digits, perhaps a point and more digits, and perhaps an exponent; `number?_of_parts`
says what any such text is read as. What the printer writes of a number are such parts:

| what is written | is read as |
|---|---|
| an integer (`number?_toString`) | the integer, if it has 64 bits, else the double next to it |
| a double (`number?_text`) | the double |
-/

namespace Telemetry.Json

open Double (Decimal exponentPart?)
open Text (takeDigits digitsValue)

/-- **A text that does not go on with a number** in front of it. -/
def EndsNumber (rest : List Char) : Prop :=
  ∀ c ∈ rest.head?, ¬ c.isDigit ∧ c ≠ '.' ∧ c ≠ 'e' ∧ c ≠ 'E'

variable {rest : List Char}

/-! ### The parts of a number -/

/-- The digits before the point: not empty, and without a zero in front of other digits. -/
structure IsWhole (whole : List Char) : Prop where
  ne_nil : whole ≠ []
  digits : ∀ c ∈ whole, c.isDigit
  zero : whole.head? = some '0' → whole = ['0']

/-- Digits after a point, if there are any. -/
def pointed (fraction : List Char) : List Char := if fraction = [] then [] else '.' :: fraction

/-- A text with a minus in front, or without. -/
def signed (negative : Bool) (cs : List Char) : List Char := if negative then '-' :: cs else cs

theorem signed_append (negative : Bool) (cs rest : List Char) :
    signed negative cs ++ rest = signed negative (cs ++ rest) := by
  cases negative <;> rfl

theorem takeMinus_signed (negative : Bool) {cs : List Char} (h : cs.head? ≠ some '-') :
    takeMinus (signed negative cs) = (negative, cs) := by
  cases negative with
  | true => rfl
  | false =>
    change takeMinus cs = _
    unfold takeMinus
    split
    next => exact absurd rfl h
    next => rfl

theorem fractionPart?_pointed {fraction tail : List Char} (hfraction : ∀ c ∈ fraction, c.isDigit)
    (htail : ∀ c ∈ tail.head?, ¬ c.isDigit ∧ c ≠ '.') :
    fractionPart? (pointed fraction ++ tail) = some (fraction, tail) := by
  cases fraction with
  | nil =>
    change fractionPart? tail = _
    unfold fractionPart?
    split
    next => exact absurd rfl (htail _ rfl).2
    next => rfl
  | cons c fraction =>
    change fractionPart? ('.' :: (c :: fraction ++ tail)) = _
    rw [fractionPart?, Text.takeDigits_append hfraction fun c hc => (htail c hc).1]

/-- **The parts of a number** are read as they are. -/
theorem number?_of_parts (negative : Bool) {whole fraction tail : List Char} {exponent : Option Int}
    (hwhole : IsWhole whole) (hfraction : ∀ c ∈ fraction, c.isDigit)
    (htail : ∀ c ∈ tail.head?, ¬ c.isDigit ∧ c ≠ '.')
    (hexponent : exponentPart? tail = some (exponent, rest)) :
    number? (signed negative (whole ++ (pointed fraction ++ tail))) =
      some (numberOf negative whole fraction (!fraction.isEmpty || exponent.isSome)
        (exponent.getD 0), rest) := by
  have hparts : ∀ c ∈ (pointed fraction ++ tail).head?, ¬ c.isDigit := fun c hc => by
    rw [pointed] at hc
    split at hc
    · exact (htail c hc).1
    · obtain rfl := Option.some.inj hc
      decide
  have hminus : (whole ++ (pointed fraction ++ tail)).head? ≠ some '-' := fun heq => by
    rw [List.head?_append_of_ne_nil _ hwhole.ne_nil] at heq
    exact absurd (hwhole.digits _ (List.mem_of_mem_head? heq)) (by decide)
  rw [number?, takeMinus_signed negative hminus]
  simp only
  rw [Text.takeDigits_append hwhole.digits hparts]
  have hwholes := hwhole.ne_nil
  have hzero := hwhole.zero
  split
  next heq => exact absurd (congrArg Prod.fst heq) hwholes
  next heq =>
    obtain ⟨rfl, -⟩ := Prod.mk.inj heq
    exact absurd (hzero rfl) (by simp)
  next heq =>
    obtain ⟨rfl, rfl⟩ := Prod.mk.inj heq
    rw [fractionPart?_pointed hfraction htail, Option.bind_some, hexponent]
    rfl

/-! ### Exponents -/

theorem exponentPart?_of_endsNumber (h : EndsNumber rest) :
    exponentPart? rest = some (none, rest) := by
  cases rest with
  | nil => rfl
  | cons c rest =>
    obtain ⟨-, -, hlower, hupper⟩ := h c rfl
    exact if_neg (not_or.2 ⟨hlower, hupper⟩)

/-- **An exponent** with its sign. -/
theorem exponentPart?_signed (h : EndsNumber rest) (n : Int) :
    exponentPart? ('e' :: ((if 0 ≤ n then '+' else '-') :: (Nat.toDigits 10 n.natAbs ++ rest))) =
      some (some n, rest) := by
  have htake : takeDigits (Nat.toDigits 10 n.natAbs ++ rest) = (Nat.toDigits 10 n.natAbs, rest) :=
    Text.takeDigits_append Text.isDigit_of_mem_toDigits fun c hc => (h c hc).1
  have hvalue := Text.digitsValue_toDigits n.natAbs
  have hne : Nat.toDigits 10 n.natAbs ≠ [] := Nat.toDigits_ne_nil
  generalize Nat.toDigits 10 n.natAbs = digits at htake hvalue hne
  cases digits with
  | nil => exact absurd rfl hne
  | cons c digits =>
    rw [List.cons_append] at htake
    by_cases hn : 0 ≤ n
    · have hsigned : exponentPart? ('e' :: '+' :: (c :: (digits ++ rest))) =
          some (some (digitsValue (c :: digits) : Int), rest) := by
        simp [exponentPart?, htake]
      rw [if_pos hn, List.cons_append, hsigned, hvalue, Int.natAbs_of_nonneg hn]
    · have hsigned : exponentPart? ('e' :: '-' :: (c :: (digits ++ rest))) =
          some (some (-(digitsValue (c :: digits) : Int)), rest) := by
        simp [exponentPart?, htake]
      rw [if_neg hn, List.cons_append, hsigned, hvalue, Int.ofNat_natAbs_of_nonpos (by omega),
        Int.neg_neg]

/-! ### Integers -/

theorem endsNumber_tail (h : EndsNumber rest) : ∀ c ∈ rest.head?, ¬ c.isDigit ∧ c ≠ '.' :=
  fun c hc => ⟨(h c hc).1, (h c hc).2.1⟩

theorem isWhole_toDigits (n : Nat) : IsWhole (Nat.toDigits 10 n) where
  ne_nil := Nat.toDigits_ne_nil
  digits := Text.isDigit_of_mem_toDigits
  zero := fun heq => by
    rcases Nat.eq_zero_or_pos n with rfl | hpos
    · exact Nat.toDigits_zero 10
    · exact absurd heq (Text.head?_toDigits_ne hpos)

theorem toList_intToString (n : Int) :
    (toString n).toList = signed (decide (n < 0)) (Nat.toDigits 10 n.natAbs) := by
  cases n with
  | ofNat n =>
    have hsign : decide (Int.ofNat n < 0) = false :=
      decide_eq_false (Int.not_lt.2 (Int.natCast_nonneg n))
    rw [hsign]
    change (toString n).toList = Nat.toDigits 10 n
    rw [Nat.toString_eq_ofList_toDigits, String.toList_ofList]
  | negSucc n =>
    rw [decide_eq_true (Int.negSucc_lt_zero n)]
    change ("-" ++ toString (n + 1)).toList = '-' :: Nat.toDigits 10 (n + 1)
    rw [String.toList_append, Nat.toString_eq_ofList_toDigits]
    exact congrArg ('-' :: ·) String.toList_ofList

/-- **An integer** is read as a number without a fraction. -/
theorem number?_toString (h : EndsNumber rest) (n : Int) :
    number? ((toString n).toList ++ rest) =
      some (numberOf (decide (n < 0)) (Nat.toDigits 10 n.natAbs) [] false 0, rest) := by
  rw [toList_intToString, signed_append]
  exact number?_of_parts _ (isWhole_toDigits n.natAbs)
    (show ∀ c ∈ ([] : List Char), c.isDigit from by simp) (endsNumber_tail h)
    (exponentPart?_of_endsNumber h)

/-! ### Doubles -/

theorem numberOf_true (negative : Bool) (whole fraction : List Char) (exponent : Int) :
    numberOf negative whole fraction true exponent =
      .real (if negative then -Double.ofDigits whole fraction exponent
        else Double.ofDigits whole fraction exponent) := by
  simp [numberOf]

/-- What a decimal is read as, with a sign: a double that its number makes, however many zeros it
was written with. -/
def IsReadAs (negative : Bool) (cs : List Char) (d : Decimal) : Prop :=
  ∀ rest, EndsNumber rest → ∃ (n : Nat) (k : Int), (n * 10 ^ k : ℚ) = d.value ∧
    number? (signed negative (cs ++ rest)) =
      some (.real (if negative then -Double.ofDecimal n k else Double.ofDecimal n k), rest)

/-- The parts of a number that has a fraction or an exponent. -/
theorem isReadAs_of_parts (negative : Bool) {whole fraction tail : List Char} {d : Decimal}
    {exponent : Option Int} (hwhole : IsWhole whole) (hfraction : ∀ c ∈ fraction, c.isDigit)
    (hreal : (!fraction.isEmpty || exponent.isSome) = true)
    (htail : ∀ c ∈ tail.head?, ¬ c.isDigit ∧ c ≠ '.')
    (hexponent : ∀ rest, EndsNumber rest → exponentPart? (tail ++ rest) = some (exponent, rest))
    (hvalue : (digitsValue (whole ++ fraction) * 10 ^ (exponent.getD 0 - fraction.length) : ℚ) =
      d.value) : IsReadAs negative (whole ++ (pointed fraction ++ tail)) d := by
  intro rest hrest
  refine ⟨_, _, hvalue, ?_⟩
  rw [List.append_assoc, List.append_assoc, number?_of_parts negative hwhole hfraction ?_
    (hexponent rest hrest), hreal, numberOf_true]
  · rfl
  · cases tail with
    | nil => exact endsNumber_tail hrest
    | cons c tail => exact htail

/-- Nothing after the fraction. -/
theorem isReadAs_of_fraction (negative : Bool) {whole fraction : List Char} {d : Decimal}
    (hwhole : IsWhole whole) (hfraction : ∀ c ∈ fraction, c.isDigit) (hne : fraction ≠ [])
    (hvalue : (digitsValue (whole ++ fraction) * 10 ^ (-fraction.length : ℤ) : ℚ) = d.value) :
    IsReadAs negative (whole ++ '.' :: fraction) d := by
  rw [← zero_sub] at hvalue
  have hnothing : ∀ rest, EndsNumber rest → exponentPart? ([] ++ rest) = some (none, rest) :=
    fun rest hrest => exponentPart?_of_endsNumber hrest
  have hparts := isReadAs_of_parts negative hwhole hfraction (by simpa using hne)
    (fun c hc => absurd hc (by simp)) hnothing hvalue
  rwa [List.append_nil, pointed, if_neg hne] at hparts

theorem replicate_one_zero : ['0'] = List.replicate 1 '0' := rfl

/-- Zeros up to the point, and one after it. -/
theorem isReadAs_zerosBehind (negative : Bool) {n k : Nat} (hzero : n = 0 → k = 0) :
    IsReadAs negative ((Nat.toDigits 10 n ++ List.replicate k '0') ++ '.' :: ['0']) ⟨n, k⟩ := by
  have hwhole := isWhole_toDigits n
  have hzeros : IsWhole (Nat.toDigits 10 n ++ List.replicate k '0') := by
    by_cases hn : n = 0
    · obtain rfl : k = 0 := hzero hn
      rwa [List.replicate_zero, List.append_nil]
    · refine ⟨List.append_ne_nil_of_left_ne_nil hwhole.ne_nil _, fun c hc => ?_, fun heq => ?_⟩
      · exact (List.mem_append.1 hc).elim (hwhole.digits c) (Text.isDigit_of_mem_zeros c)
      · rw [List.head?_append_of_ne_nil _ hwhole.ne_nil] at heq
        exact absurd heq (Text.head?_toDigits_ne (Nat.pos_of_ne_zero hn))
  refine isReadAs_of_fraction negative hzeros
    (Text.isDigit_of_mem_zeros (n := 1)) (List.cons_ne_nil _ _) ?_
  rw [replicate_one_zero, Text.digitsValue_append_zeros, Text.digitsValue_append_zeros,
    Text.digitsValue_toDigits, Decimal.value]
  simp

/-- The point is among the digits. -/
theorem isReadAs_pointAmong (negative : Bool) {n k : Nat} (hn : n ≠ 0) (hpos : 0 < k)
    (hlt : k < (Nat.toDigits 10 n).length) :
    IsReadAs negative ((Nat.toDigits 10 n).take ((Nat.toDigits 10 n).length - k) ++
      '.' :: (Nat.toDigits 10 n).drop ((Nat.toDigits 10 n).length - k)) ⟨n, -k⟩ := by
  have hwhole := isWhole_toDigits n
  have hvalue := Text.digitsValue_toDigits n
  have hfirst := Text.head?_toDigits_ne (Nat.pos_of_ne_zero hn)
  generalize Nat.toDigits 10 n = digits at *
  have hlength : (digits.drop (digits.length - k)).length = k := by
    rw [List.length_drop]
    omega
  have htake : IsWhole (digits.take (digits.length - k)) := by
    have hne : digits.take (digits.length - k) ≠ [] := fun heq => by
      have := congrArg List.length heq
      rw [List.length_take, List.length_nil] at this
      omega
    refine ⟨hne, fun c hc => hwhole.digits c (List.mem_of_mem_take hc), fun heq => ?_⟩
    rw [List.head?_take, if_neg (by omega)] at heq
    exact absurd heq hfirst
  refine isReadAs_of_fraction negative htake
    (fun c hc => hwhole.digits c (List.mem_of_mem_drop hc)) (fun heq => ?_) ?_
  · rw [heq, List.length_nil] at hlength
    omega
  · rw [List.take_append_drop, hvalue, hlength, Decimal.value]

/-- Zeros after the point. -/
theorem isReadAs_zerosInFront (negative : Bool) {n k : Nat}
    (hge : (Nat.toDigits 10 n).length ≤ k) :
    IsReadAs negative (['0'] ++
      '.' :: (List.replicate (k - (Nat.toDigits 10 n).length) '0' ++ Nat.toDigits 10 n))
      ⟨n, -k⟩ := by
  have hwhole := isWhole_toDigits n
  have hlength : (List.replicate (k - (Nat.toDigits 10 n).length) '0' ++
      Nat.toDigits 10 n).length = k := by
    rw [List.length_append, List.length_replicate]
    omega
  refine isReadAs_of_fraction negative
    ⟨List.cons_ne_nil _ _, Text.isDigit_of_mem_zeros (n := 1), fun _ => rfl⟩
    (fun c hc => (List.mem_append.1 hc).elim (Text.isDigit_of_mem_zeros c) (hwhole.digits c))
    (List.append_ne_nil_of_right_ne_nil _ hwhole.ne_nil) ?_
  rw [hlength, replicate_one_zero, Text.digitsValue_zeros_append, Text.digitsValue_zeros_append,
    Text.digitsValue_toDigits, Decimal.value]

/-- **Digits without an exponent** are read as their decimal. -/
theorem isReadAs_plainText (negative : Bool) {d : Decimal} (hzero : d.digits = 0 → d.exponent = 0) :
    IsReadAs negative (d.plainText true).toList d := by
  obtain ⟨n, k⟩ := d
  simp only at hzero
  unfold Decimal.plainText
  simp only
  split
  next hnonneg =>
    obtain ⟨k, rfl⟩ := Int.eq_ofNat_of_zero_le hnonneg
    rw [if_pos trivial, Int.toNat_natCast, String.toList_append, String.toList_ofList]
    exact isReadAs_zerosBehind negative fun hn => Int.natCast_eq_zero.1 (hzero hn)
  next hneg =>
    obtain ⟨k, hk⟩ := Int.exists_eq_neg_ofNat (le_of_not_ge hneg)
    subst hk
    have hpos : 0 < k := by omega
    rw [neg_neg, Int.toNat_natCast]
    split
    next hlt =>
      rw [String.toList_ofList]
      exact isReadAs_pointAmong negative (fun hn => absurd (hzero hn) (by omega)) hpos hlt
    next hge =>
      rw [String.toList_ofList]
      exact isReadAs_zerosInFront negative (Nat.not_lt.1 hge)

/-- The mark and the digits of an exponent. -/
theorem toList_exponent (k : Int) :
    ((if true ∧ 0 ≤ k then "e+" else "e") ++ toString k).toList =
      'e' :: (if 0 ≤ k then '+' else '-') :: Nat.toDigits 10 k.natAbs := by
  rw [String.toList_append, toList_intToString]
  by_cases hk : 0 ≤ k
  · rw [if_pos ⟨rfl, hk⟩, if_pos hk, decide_eq_false (Int.not_lt.2 hk)]
    rfl
  · rw [if_neg fun h => hk h.2, if_neg hk, decide_eq_true (Int.not_le.1 hk)]
    rfl

/-- **Digits with an exponent** are read as their decimal. -/
theorem isReadAs_scientificText (negative : Bool) (d : Decimal) :
    IsReadAs negative (d.scientificText true).toList d := by
  have hwhole := isWhole_toDigits d.digits
  have hvalue := Text.digitsValue_toDigits d.digits
  obtain ⟨n, k⟩ := d
  simp only at hwhole hvalue
  unfold Decimal.scientificText
  dsimp only
  generalize Nat.toDigits 10 n = digits at hwhole hvalue ⊢
  cases digits with
  | nil => exact absurd rfl hwhole.ne_nil
  | cons c fraction =>
    obtain ⟨e, he⟩ : ∃ e, k + ((c :: fraction).length : Int) - 1 = e := ⟨_, rfl⟩
    have htext : ∀ mantissa : String, mantissa.toList = [c] ++ pointed fraction →
        (mantissa ++ (if true ∧ 0 ≤ e then "e+" else "e") ++ toString e).toList =
          [c] ++ (pointed fraction ++ ('e' :: (if 0 ≤ e then '+' else '-') ::
            Nat.toDigits 10 e.natAbs)) := fun mantissa hmantissa => by
      rw [String.append_assoc, String.toList_append, hmantissa, toList_exponent, List.append_assoc]
    have hdigits := hwhole.digits
    have hread : IsReadAs negative ([c] ++ (pointed fraction ++ ('e' ::
        (if 0 ≤ e then '+' else '-') :: Nat.toDigits 10 e.natAbs))) ⟨n, k⟩ := by
      refine isReadAs_of_parts negative ⟨List.cons_ne_nil _ _, ?_, fun h => ?_⟩ ?_
        (Bool.or_true _) ?_ (fun rest hrest => exponentPart?_signed hrest e) ?_
      · exact fun c' hc' => hdigits c' (List.mem_singleton.1 hc' ▸ List.mem_cons_self)
      · exact congrArg (· :: []) (Option.some.inj h)
      · exact fun c' hc' => hdigits c' (List.mem_cons_of_mem _ hc')
      · intro c' hc'
        obtain rfl := Option.some.inj hc'
        decide
      · rw [List.singleton_append, hvalue, Option.getD_some, ← he, List.length_cons, Decimal.value]
        congr 2
        push_cast
        ring
    have hmantissa : ∀ mantissa : String, mantissa.toList = [c] ++ pointed fraction →
        IsReadAs negative
          (mantissa ++ (if true ∧ 0 ≤ e then "e+" else "e") ++ toString e).toList ⟨n, k⟩ :=
      fun mantissa h => by rwa [htext mantissa h]
    rw [he]
    cases fraction with
    | nil => exact hmantissa _ String.toList_ofList
    | cons c' fraction => exact hmantissa _ String.toList_ofList

/-- A double with its sign. -/
theorem exists_body {x : Float} (hx : Double.isNumber x) :
    ∃ body : String, (∀ negative, IsReadAs negative body.toList (Double.shortest .evenDigit x)) ∧
      (Double.text .json x).toList = signed (Double.isNegative x) body.toList := by
  have hfinite : Double.magnitude x ≠ 0x7FF0000000000000 := fun heq => by
    rw [Double.isNumber, heq] at hx
    exact absurd hx (by decide)
  have hbody : ∀ (isPlain : Prop) (_ : Decidable isPlain) (negative : Bool), IsReadAs negative
      (if isPlain then (Double.shortest .evenDigit x).plainText true
        else (Double.shortest .evenDigit x).scientificText true).toList
      (Double.shortest .evenDigit x) := fun isPlain _ negative => by
    split
    · exact isReadAs_plainText negative (Double.exponent_shortest hx _)
    · exact isReadAs_scientificText negative _
  unfold Double.text
  rw [if_neg hfinite, hx, if_neg (by decide)]
  cases Double.isNegative x with
  | true => exact ⟨_, hbody _ _, String.toList_append⟩
  | false => exact ⟨_, hbody _ _, rfl⟩

/-- **A double** is read as itself. -/
theorem number?_text {x : Float} (hx : Double.isNumber x) (h : EndsNumber rest) :
    number? ((Double.text .json x).toList ++ rest) = some (.real x, rest) := by
  obtain ⟨body, hbody, htext⟩ := exists_body hx
  obtain ⟨n, k, hvalue, hread⟩ := hbody (Double.isNegative x) rest h
  rw [htext, signed_append, hread, Double.ofDecimal_shortest hx .evenDigit hvalue]

end Telemetry.Json
