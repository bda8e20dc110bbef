import Telemetry.Double.Reader
import Telemetry.Json.Value

/-!
# Reading JSON

The reader works on the characters of the text and gives each value together with
the characters after it. Lists of values recurse on a bound for the nesting and
length of the text, which `Json.read?` sets to the length of the text itself: every
value takes at least one character, so the bound is never reached.
-/

namespace Telemetry.Json

open Text (hexDigit? takeDigits digitsValue)
open Double (exponentPart?)

/-- The rest of a text without leading blanks. -/
def skipBlanks : List Char → List Char
  | c :: rest => if c = ' ' ∨ c = '\n' ∨ c = '\t' ∨ c = '\r' then skipBlanks rest else c :: rest
  | [] => []

/-- The number of four hexadecimal digits. -/
def hex4? (a b c d : Char) : Option Nat := do
  let a ← hexDigit? a
  let b ← hexDigit? b
  let c ← hexDigit? c
  let d ← hexDigit? d
  return ((a * 16 + b) * 16 + c) * 16 + d

/-- The character of a simple escape. -/
def simpleEscape? (c : Char) : Option Char :=
  match c with
  | '"' => some '"'
  | '\\' => some '\\'
  | '/' => some '/'
  | 'b' => some '\x08'
  | 'f' => some '\x0c'
  | 'n' => some '\n'
  | 'r' => some '\r'
  | 't' => some '\t'
  | _ => none

/-- The rest of a string after its opening quote; `done` holds the characters read so
far, last first. A code point above the first plane is written as two escapes. -/
def stringBody? (done : List Char) : List Char → Option (String × List Char)
  | '"' :: rest => some (String.ofList done.reverse, rest)
  | '\\' :: 'u' :: a :: b :: c :: d :: rest =>
    match hex4? a b c d with
    | none => none
    | some high =>
      if 0xD800 ≤ high ∧ high < 0xDC00 then
        match rest with
        | '\\' :: 'u' :: a :: b :: c :: d :: rest =>
          match hex4? a b c d with
          | none => none
          | some low =>
            if 0xDC00 ≤ low ∧ low < 0xE000 then
              let code := 0x10000 + (high - 0xD800) * 0x400 + (low - 0xDC00)
              stringBody? (Char.ofNat code :: done) rest
            else none
        | _ => none
      else if 0xDC00 ≤ high ∧ high < 0xE000 then none
      else stringBody? (Char.ofNat high :: done) rest
  | '\\' :: c :: rest =>
    match simpleEscape? c with
    | none => none
    | some c => stringBody? (c :: done) rest
  | c :: rest => if c.toNat < 32 then none else stringBody? (c :: done) rest
  | [] => none

/-- An unsigned number from the parts of its text. -/
def numberOf (negative : Bool) (whole fraction : List Char) (isReal : Bool) (exponent : Int) :
    Json :=
  let n := digitsValue whole
  if !isReal ∧ n < UInt64.size ∧ (!negative ∨ (0 < n ∧ 2 * n ≤ UInt64.size)) then
    .int (if negative then -(n : Int) else n)
  else
    let x := Double.ofDigits whole fraction exponent
    .real (if negative then -x else x)

/-- Whether a number has a minus in front, and the text after it. -/
def takeMinus : List Char → Bool × List Char
  | '-' :: rest => (true, rest)
  | rest => (false, rest)

/-- The digits after a point, at least one, and the text after them; without a point, there are
none. -/
def fractionPart? : List Char → Option (List Char × List Char)
  | '.' :: rest => match takeDigits rest with
    | ([], _) => none
    | (fraction, rest) => some (fraction, rest)
  | rest => some ([], rest)

/-- A number and the text after it. -/
def number? (cs : List Char) : Option (Json × List Char) :=
  let (negative, cs) := takeMinus cs
  match takeDigits cs with
  | ([], _) => none
  | ('0' :: _ :: _, _) => none
  | (whole, cs) => (fractionPart? cs).bind fun (fraction, cs) =>
      (exponentPart? cs).map fun (exponent, cs) =>
        (numberOf negative whole fraction (!fraction.isEmpty || exponent.isSome)
          (exponent.getD 0), cs)

mutual

/-- A value at the front of a text, and the text after it. -/
def value? : Nat → List Char → Option (Json × List Char)
  | 0, _ => none
  | bound + 1, cs =>
    match skipBlanks cs with
    | 'n' :: 'u' :: 'l' :: 'l' :: rest => some (.null, rest)
    | 't' :: 'r' :: 'u' :: 'e' :: rest => some (.bool true, rest)
    | 'f' :: 'a' :: 'l' :: 's' :: 'e' :: rest => some (.bool false, rest)
    | '"' :: rest => (stringBody? [] rest).map fun (s, rest) => (.str s, rest)
    | '[' :: rest =>
      match skipBlanks rest with
      | ']' :: rest => some (.arr [], rest)
      | rest => items? bound [] rest
    | '\x7b' :: rest =>
      match skipBlanks rest with
      | '\x7d' :: rest => some (.obj [], rest)
      | rest => fields? bound [] rest
    | rest => number? rest

/-- The items of an array up to its end; `done` holds those read so far, last first. -/
def items? : Nat → List Json → List Char → Option (Json × List Char)
  | 0, _, _ => none
  | bound + 1, done, cs =>
    match value? bound cs with
    | none => none
    | some (v, rest) =>
      match skipBlanks rest with
      | ',' :: rest => items? bound (v :: done) rest
      | ']' :: rest => some (.arr (v :: done).reverse, rest)
      | _ => none

/-- The fields of an object up to its end. Of a name given twice, the last value
counts. -/
def fields? : Nat → List (String × Json) → List Char → Option (Json × List Char)
  | 0, _, _ => none
  | bound + 1, done, cs =>
    match skipBlanks cs with
    | '"' :: rest =>
      match stringBody? [] rest with
      | none => none
      | some (name, rest) =>
        match skipBlanks rest with
        | ':' :: rest =>
          match value? bound rest with
          | none => none
          | some (v, rest) =>
            match skipBlanks rest with
            | ',' :: rest => fields? bound (setField name v done) rest
            | '\x7d' :: rest => some (.obj (setField name v done), rest)
            | _ => none
        | _ => none
    | _ => none

end

/-- The value of a JSON text. -/
def read? (text : String) : Option Json :=
  let cs := text.toList
  match value? (2 * cs.length + 2) cs with
  | some (v, rest) => if (skipBlanks rest).isEmpty then some v else none
  | none => none

end Telemetry.Json
