import Telemetry.Double.Order
import Telemetry.Double.Shortest

/-!
# Doubles as text

A double is written with the fewest digits that read back. What differs from one
output to the next is only how those digits are laid out, and `NumberStyle` says
that: from where to where they are written without an exponent, whether a whole
number keeps a `.0`, how the exponent is signed, and what stands for the values
that are no numbers.
-/

namespace Telemetry.Double

/-- How the digits of a double are laid out. A number whose leading digit stands
for `10 ^ e` is written without an exponent if `plainFrom ≤ e < plainTo`, where a
missing bound is no bound. -/
structure NumberStyle where
  plainFrom : Option Int
  plainTo : Option Int
  keepsFraction : Bool
  signsExponent : Bool
  nan : String
  infinity : String
  negativeInfinity : String
  tie : TieRule

/-- Numbers in metric lines and log messages: never an exponent, and no fraction
on whole numbers. -/
def NumberStyle.plain : NumberStyle :=
  ⟨none, none, false, false, "NaN", "inf", "-inf", .upper⟩

/-- Numbers in descriptions of values: always with a fraction or an exponent. -/
def NumberStyle.described : NumberStyle :=
  ⟨some (-4), some 16, true, false, "NaN", "inf", "-inf", .upper⟩

/-- Numbers in JSON, which has no words for the values that are no numbers. -/
def NumberStyle.json : NumberStyle :=
  ⟨some (-5), some 16, true, true, "null", "null", "null", .evenDigit⟩

/-- Numbers in YAML. -/
def NumberStyle.yaml : NumberStyle :=
  ⟨some (-5), some 16, true, false, ".nan", ".inf", "-.inf", .evenDigit⟩

/-- Digits without an exponent. -/
def Decimal.plainText (d : Decimal) (keepsFraction : Bool) : String :=
  let digits := Nat.toDigits 10 d.digits
  if 0 ≤ d.exponent then
    let whole := String.ofList (digits ++ List.replicate d.exponent.toNat '0')
    if keepsFraction then whole ++ ".0" else whole
  else
    let places := (-d.exponent).toNat
    if places < digits.length then
      let whole := digits.take (digits.length - places)
      let fraction := digits.drop (digits.length - places)
      String.ofList (whole ++ '.' :: fraction)
    else
      String.ofList ('0' :: '.' :: (List.replicate (places - digits.length) '0' ++ digits))

/-- One digit before the point, the others after it, and an exponent. -/
def Decimal.scientificText (d : Decimal) (signsExponent : Bool) : String :=
  let digits := Nat.toDigits 10 d.digits
  let exponent := d.exponent + (digits.length : Int) - 1
  let mantissa := match digits with
    | [] => "0"
    | [c] => String.ofList [c]
    | c :: rest => String.ofList (c :: '.' :: rest)
  let mark := if signsExponent ∧ 0 ≤ exponent then "e+" else "e"
  mantissa ++ mark ++ toString exponent

/-- The text of a double in a given style. -/
def text (style : NumberStyle) (x : Float) : String :=
  if magnitude x = 0x7FF0000000000000 then
    if isNegative x then style.negativeInfinity else style.infinity
  else if !isNumber x then style.nan
  else
    let d := shortest style.tie x
    let e := d.exponent + (digitCount d.digits : Int) - 1
    let isPlain := d.digits = 0 ∨
      ((style.plainFrom.all (· ≤ e)) ∧ (style.plainTo.all (e < ·)))
    let body := if isPlain then d.plainText style.keepsFraction
      else d.scientificText style.signsExponent
    if isNegative x then "-" ++ body else body

/-- The sixteen hexadecimal digits of a 64-bit word. -/
def hexDigits (bits : UInt64) : String :=
  let digits := Nat.toDigits 16 bits.toNat
  String.ofList (List.replicate (16 - digits.length) '0' ++ digits)

end Telemetry.Double
