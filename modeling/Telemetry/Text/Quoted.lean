import Telemetry.Text.Invisible

/-!
# Quoted strings

In a description, a string stands between double quotes. Quotes and backslashes get
a backslash in front, the common control characters have a letter each, and any other
character without a visible form of its own is written by its code point.
-/

namespace Telemetry.Text

/-- A character by its code point. -/
def codePointEscape (c : Char) : String :=
  "\\u\x7b" ++ String.ofList (Nat.toDigits 16 c.toNat) ++ "\x7d"

/-- A character inside a quoted string. -/
def quotedChar (c : Char) : String :=
  match c with
  | '"' => "\\\""
  | '\\' => "\\\\"
  | '\n' => "\\n"
  | '\r' => "\\r"
  | '\t' => "\\t"
  | c =>
    if c.toNat = 0 then "\\0"
    else if isInvisible c then codePointEscape c
    else c.toString

/-- A string in quotes. -/
def quoted (s : String) : String := "\"" ++ String.join (s.toList.map quotedChar) ++ "\""

end Telemetry.Text
