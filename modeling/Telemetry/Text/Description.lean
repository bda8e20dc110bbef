/-!
# Descriptions of values

Some texts of the program describe a value by its shape: a record with its fields,
a tagged value, a list, a map. `Description` is that shape, and it has two
renderings. `Description.inline` writes it on one line, and `Description.indented`
puts every part on a line of its own, four blanks deeper than the whole.

A record without fields is written by its name alone.
-/

namespace Telemetry.Text

/-- The shape of a described value. -/
inductive Description
  | atom (text : String)
  | record (name : String) (fields : List (String × Description))
  | tagged (name : String) (items : List Description)
  | list (items : List Description)
  | map (entries : List (String × Description))

namespace Description

/-- A natural number. -/
def ofNat (n : Nat) : Description := .atom (toString n)

/-- A truth value. -/
def ofBool (b : Bool) : Description := .atom (toString b)

/-- A value that may be missing. -/
def ofOption {α : Type} (describe : α → Description) : Option α → Description
  | none => .atom "None"
  | some x => .tagged "Some" [describe x]

mutual

/-- A description on one line. -/
def inline : Description → String
  | .atom text => text
  | .record name [] => name
  | .record name fields =>
    name ++ " \x7b " ++ String.intercalate ", " (inlineFields fields) ++ " \x7d"
  | .tagged name items => name ++ "(" ++ String.intercalate ", " (inlineItems items) ++ ")"
  | .list items => "[" ++ String.intercalate ", " (inlineItems items) ++ "]"
  | .map entries => "\x7b" ++ String.intercalate ", " (inlineFields entries) ++ "\x7d"

/-- The items of a list, each on one line. -/
def inlineItems : List Description → List String
  | [] => []
  | d :: rest => inline d :: inlineItems rest

/-- Named parts, each on one line. -/
def inlineFields : List (String × Description) → List String
  | [] => []
  | (name, d) :: rest => (name ++ ": " ++ inline d) :: inlineFields rest

end

/-- Parts on lines of their own between two brackets, or the brackets alone. -/
def block (opening closing : String) (lines : List String) : List String :=
  if lines.isEmpty then [opening ++ closing]
  else opening :: lines.map ("    " ++ ·) ++ [closing]

/-- Adds a text in front of the first of some lines. -/
def labelled (label : String) : List String → List String
  | [] => [label]
  | first :: rest => (label ++ first) :: rest

/-- Adds a comma behind the last of some lines. -/
def withComma (lines : List String) : List String :=
  match lines.getLast? with
  | none => []
  | some last => lines.dropLast ++ [last ++ ","]

mutual

/-- A description spread over lines. -/
def lines : Description → List String
  | .atom text => [text]
  | .record name [] => [name]
  | .record name fields => block (name ++ " \x7b") "\x7d" (fieldLines fields)
  | .tagged name items => block (name ++ "(") ")" (itemLines items)
  | .list items => block "[" "]" (itemLines items)
  | .map entries => block "\x7b" "\x7d" (fieldLines entries)

/-- The items of a list, spread over lines. -/
def itemLines : List Description → List String
  | [] => []
  | d :: rest => withComma (lines d) ++ itemLines rest

/-- Named parts, spread over lines. -/
def fieldLines : List (String × Description) → List String
  | [] => []
  | (name, d) :: rest => withComma (labelled (name ++ ": ") (lines d)) ++ fieldLines rest

end

/-- A description spread over lines, as one text. -/
def indented (d : Description) : String := String.intercalate "\n" (lines d)

end Description

end Telemetry.Text
