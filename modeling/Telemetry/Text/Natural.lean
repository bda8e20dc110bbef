/-!
# Natural numbers in text

Digits are read in bases up to sixteen. A number that a user gives has to fit into 64 bits;
what is wrong with one that cannot be read is a `NumberFault`.
-/

namespace Telemetry.Text

/-- The value of a hexadecimal digit. -/
def hexDigit? (c : Char) : Option Nat :=
  if c.isDigit then some (c.toNat - '0'.toNat)
  else if 'a' ≤ c ∧ c ≤ 'f' then some (c.toNat - 'a'.toNat + 10)
  else if 'A' ≤ c ∧ c ≤ 'F' then some (c.toNat - 'A'.toNat + 10)
  else none

/-- The value of a digit in a base up to sixteen. -/
def digitIn? (base : Nat) (c : Char) : Option Nat :=
  (hexDigit? c).bind fun d => if d < base then some d else none

/-- The number of some digits in a base, at least one. -/
def naturalIn? (base : Nat) (cs : List Char) : Option Nat :=
  if cs.isEmpty then none
  else cs.foldl (fun n? c => n?.bind fun n => (digitIn? base c).map (n * base + ·)) (some 0)

/-- The decimal digits at the front of a text, and the text after them. -/
def takeDigits (cs : List Char) : List Char × List Char :=
  (cs.takeWhile Char.isDigit, cs.dropWhile Char.isDigit)

/-- The number that decimal digits stand for. -/
def digitsValue (digits : List Char) : Nat :=
  digits.foldl (fun n c => n * 10 + (c.toNat - '0'.toNat)) 0

/-- What is wrong with a number given as text. -/
inductive NumberFault
  | empty
  | badDigit
  | tooLarge
  deriving DecidableEq, Repr

/-- The text of what is wrong. -/
def NumberFault.message : NumberFault → String
  | .empty => "cannot parse integer from empty string"
  | .badDigit => "invalid digit found in string"
  | .tooLarge => "number too large to fit in target type"

/-- The value of some digits after a number that has been read. -/
def readDigits (n : Nat) : List Char → Except NumberFault Nat
  | [] => .ok n
  | c :: rest =>
    if !c.isDigit then .error .badDigit
    else
      let n := n * 10 + (c.toNat - '0'.toNat)
      if UInt64.size ≤ n then .error .tooLarge else readDigits n rest

/-- **A number of 64 bits**; a plus sign may stand in front. The first character that is wrong
tells what is wrong. -/
def readNatural (text : String) : Except NumberFault Nat :=
  match text.toList with
  | [] => .error .empty
  | ['+'] => .error .badDigit
  | '+' :: digits => readDigits 0 digits
  | digits => readDigits 0 digits

/-- The number of a text that has one. -/
def natural? (text : String) : Option Nat := (readNatural text).toOption

end Telemetry.Text
