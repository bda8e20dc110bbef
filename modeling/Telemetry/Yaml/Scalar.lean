import Telemetry.Double.Reader

/-!
# What a plain scalar stands for

A scalar without quotes may stand for nothing, a truth value, an integer, or a number.
The words are those of the core schema; integers may also be binary, octal or hexadecimal.
Digits after a leading zero are no number.
-/

namespace Telemetry.Yaml

/-- Whether a word stands for nothing. -/
def isNullWord (s : String) : Bool := s = "~" || s = "null" || s = "Null" || s = "NULL"

/-- The truth value of a word. -/
def boolWord? (s : String) : Option Bool :=
  if s = "true" || s = "True" || s = "TRUE" then some true
  else if s = "false" || s = "False" || s = "FALSE" then some false
  else none

/-- Digits without a sign, or after one. -/
def withoutSign : List Char → List Char
  | '-' :: cs => cs
  | '+' :: cs => cs
  | cs => cs

/-- Whether a scalar is made of digits after a leading zero, so that it is no number. -/
def isZeroPadded (cs : List Char) : Bool :=
  match withoutSign cs with
  | '0' :: c :: rest => (c :: rest).all Char.isDigit
  | _ => false

/-- A number in digits, after the mark of its base. -/
def magnitude? : List Char → Option Nat
  | '0' :: 'x' :: cs => Text.naturalIn? 16 cs
  | '0' :: 'o' :: cs => Text.naturalIn? 8 cs
  | '0' :: 'b' :: cs => Text.naturalIn? 2 cs
  | cs => if isZeroPadded cs then none else Text.naturalIn? 10 cs

/-- A number without a minus sign, of any size. -/
def natural? (s : String) : Option Nat :=
  match s.toList with
  | '+' :: cs => magnitude? cs
  | cs => magnitude? cs

/-- A number that fits into 64 bits. -/
def nat64? (s : String) : Option Nat :=
  (natural? s).bind fun n => if n < UInt64.size then some n else none

/-- The number of integers of 128 bits. -/
def wideSize : Nat := UInt64.size * UInt64.size

/-- Whether a scalar is an integer that fits into 128 bits, with a sign or without. -/
def isWideInteger (s : String) : Bool :=
  match s.toList with
  | '-' :: cs => (magnitude? cs).any (2 * · ≤ wideSize)
  | _ => (natural? s).any (· < wideSize)

/-- A finite number without a sign. -/
def finite? (cs : List Char) : Option Float :=
  (Double.unsigned? cs).bind fun x => if x.isInf then none else some x

/-- The number of a scalar, finite or not. -/
def float? (s : String) : Option Float :=
  if s = ".inf" || s = ".Inf" || s = ".INF" || s = "+.inf" || s = "+.Inf" || s = "+.INF" then
    some (1.0 / 0.0)
  else if s = "-.inf" || s = "-.Inf" || s = "-.INF" then some (-1.0 / 0.0)
  else if s = ".nan" || s = ".NaN" || s = ".NAN" then some (0.0 / 0.0)
  else match s.toList with
    | '+' :: cs => finite? cs
    | '-' :: cs => (finite? cs).map fun x => -x
    | cs => finite? cs

/-- Whether a string would stand for something else without quotes. -/
def readsAsOther (s : String) : Bool :=
  s.isEmpty || isNullWord s || (boolWord? s).isSome || isWideInteger s ||
    isZeroPadded s.toList || (float? s).isSome

end Telemetry.Yaml
