import Telemetry.Text.Natural

/-!
# Doubles from decimal text

A decimal number has digits, perhaps a point among them, and perhaps an exponent. It stands for
the double that is nearest to it.
-/

namespace Telemetry.Double

/-- The double nearest to `mantissa · 10 ^ exponent`. Exponents beyond every double
are cut short, which changes nothing. -/
def ofDecimal (mantissa : Nat) (exponent : Int) : Float :=
  if mantissa = 0 then 0.0
  else
    let size : Int := (Nat.toDigits 10 mantissa).length
    if 400 < size + exponent then 1.0 / 0.0
    else if size + exponent < -400 then 0.0
    else if 0 ≤ exponent then Float.ofScientific mantissa false exponent.toNat
    else Float.ofScientific mantissa true (-exponent).toNat

/-- The double of the digits before and after the point, and an exponent. -/
def ofDigits (whole fraction : List Char) (exponent : Int) : Float :=
  ofDecimal (Text.digitsValue (whole ++ fraction)) (exponent - fraction.length)

/-- The exponent part of a number, if there is one: its value and the rest. -/
def exponentPart? : List Char → Option (Option Int × List Char)
  | c :: rest =>
    if c = 'e' ∨ c = 'E' then
      let (negative, rest) := match rest with
        | '+' :: rest => (false, rest)
        | '-' :: rest => (true, rest)
        | rest => (false, rest)
      match Text.takeDigits rest with
      | ([], _) => none
      | (digits, rest) =>
        let n : Int := Text.digitsValue digits
        some (some (if negative then -n else n), rest)
    else some (none, c :: rest)
  | [] => some (none, [])

/-- A number without a sign that fills a text: at least one digit, with a point anywhere or
nowhere. -/
def unsigned? (cs : List Char) : Option Float :=
  let (whole, rest) := Text.takeDigits cs
  let (fraction, rest) := match rest with
    | '.' :: rest => Text.takeDigits rest
    | rest => ([], rest)
  if whole.isEmpty ∧ fraction.isEmpty then none
  else match exponentPart? rest with
    | some (exponent, []) => some (ofDigits whole fraction (exponent.getD 0))
    | _ => none

/-- What follows the sign of a text for any double: a word, in capitals or not, or a number. -/
def magnitude? (cs : List Char) : Option Float :=
  let word := String.ofList (cs.map Char.toLower)
  if word = "inf" ∨ word = "infinity" then some (1.0 / 0.0)
  else if word = "nan" then some (0.0 / 0.0)
  else unsigned? cs

/-- **The double of a text.** -/
def parse? (text : String) : Option Float :=
  match text.toList with
  | '-' :: cs => (magnitude? cs).map fun x => -x
  | '+' :: cs => magnitude? cs
  | cs => magnitude? cs

end Telemetry.Double
