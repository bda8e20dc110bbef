import Telemetry.Double.Text
import Telemetry.Json.Value

/-!
# Writing JSON

Values are written without blanks. In a string, quotes, backslashes and control
characters are escaped, the control characters with a short form by that form;
everything else stands for itself.
-/

namespace Telemetry.Json

/-- The four hexadecimal digits of a small code point. -/
def unicodeEscape (code : Nat) : String :=
  let digits := Nat.toDigits 16 code
  "\\u" ++ String.ofList (List.replicate (4 - digits.length) '0' ++ digits)

/-- The escaped form of a character inside a string. -/
def escaped (c : Char) : String :=
  match c with
  | '"' => "\\\""
  | '\\' => "\\\\"
  | '\n' => "\\n"
  | '\r' => "\\r"
  | '\t' => "\\t"
  | c =>
    if c.toNat = 8 then "\\b"
    else if c.toNat = 12 then "\\f"
    else if c.toNat < 32 then unicodeEscape c.toNat
    else c.toString

/-- A string as JSON. -/
def quoted (s : String) : String :=
  "\"" ++ String.join (s.toList.map escaped) ++ "\""

mutual

/-- A value as JSON. -/
def render : Json → String
  | .null => "null"
  | .bool b => if b then "true" else "false"
  | .int n => toString n
  | .real x => Double.text .json x
  | .str s => quoted s
  | .arr items => "[" ++ String.intercalate "," (renderItems items) ++ "]"
  | .obj fields => "\x7b" ++ String.intercalate "," (renderFields fields) ++ "\x7d"

/-- The items of an array. -/
def renderItems : List Json → List String
  | [] => []
  | v :: rest => render v :: renderItems rest

/-- The fields of an object, each with its name. -/
def renderFields : List (String × Json) → List String
  | [] => []
  | (name, v) :: rest => (quoted name ++ ":" ++ render v) :: renderFields rest

end

end Telemetry.Json
