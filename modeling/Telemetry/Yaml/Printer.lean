import Telemetry.Double.Text
import Telemetry.Json.Value
import Telemetry.Yaml.Cursor
import Telemetry.Yaml.Scalar

/-!
# Writing YAML

Mappings are written in block style, two blanks deeper per level, and an empty one as a
pair of braces. What a string looks like depends on what is in it (`Style`):

| the string | is written |
|---|---|
| would stand for something else, or has an indicator in a place where it counts | in single quotes |
| has a line feed | as a literal block, if that can hold it |
| has a character without a form of its own, or blanks next to a break | in double quotes |
| all others | as it is |

A key is followed by a colon if it is short and on one line; any other key stands on a line
of its own after a question mark.
-/

namespace Telemetry.Yaml

/-- How a string is written. -/
inductive Style
  | plain
  | singleQuoted
  | doubleQuoted
  | literal
  deriving DecidableEq, Repr

/-- Whether a character can be written as itself. -/
def isPrintable (c : Char) : Bool :=
  let n := c.toNat
  n = 0x0A || (0x20 ≤ n && n ≤ 0x7E) || (0xA0 ≤ n && n ≠ 0xFEFF && n ≠ 0xFFFE && n ≠ 0xFFFF)

/-- The characters that mean something at the start of a scalar. -/
def startIndicators : List Char :=
  ['#', ',', '[', ']', '\x7b', '\x7d', '&', '*', '!', '|', '>', '\x27', '"', '%', '@', '\x60']

/-- Whether a character counts as an indicator, by what stands around it. -/
def isIndicator (before : Option Char) (c : Char) (after : Option Char) : Bool :=
  if before.isNone then
    startIndicators.contains c || ((c = '?' || c = ':' || c = '-') && isBlankOrEnd after)
  else (c = ':' && isBlankOrEnd after) || (c = '#' && isBlankOrEnd before)

/-- Whether a property holds anywhere in a text, for a character and its neighbours. -/
def anyInContext (p : Option Char → Char → Option Char → Bool) : Option Char → List Char → Bool
  | _, [] => false
  | before, c :: rest => p before c rest.head? || anyInContext p (some c) rest

/-- What about a string decides how it can be written. -/
structure Traits where
  hasIndicator : Bool
  hasBreak : Bool
  hasSpecial : Bool
  startsBlank : Bool
  endsBlank : Bool
  endsBreak : Bool
  startsBreak : Bool
  breakThenSpace : Bool
  spaceThenBreak : Bool

/-- Looks a string over. -/
def Traits.of (cs : List Char) : Traits where
  hasIndicator :=
    cs.take 3 = ['-', '-', '-'] || cs.take 3 = ['.', '.', '.'] || anyInContext isIndicator none cs
  hasBreak := cs.any isBreak
  hasSpecial := cs.any fun c => !isPrintable c
  startsBlank := cs.head? = some ' '
  endsBlank := cs.getLast? = some ' '
  startsBreak := cs.head?.any isBreak
  endsBreak := cs.getLast?.any isBreak
  breakThenSpace := anyInContext (fun b c _ => c = ' ' && b.any isBreak) none cs
  spaceThenBreak := anyInContext (fun b c _ => isBreak c && b = some ' ') none cs

/-- Whether a string can be written as it is. -/
def Traits.allowsPlain (t : Traits) : Bool :=
  !(t.startsBlank || t.endsBlank || t.startsBreak || t.endsBreak || t.hasBreak ||
    t.breakThenSpace || t.spaceThenBreak || t.hasSpecial || t.hasIndicator)

/-- Whether a string can stand in single quotes. -/
def Traits.allowsSingle (t : Traits) : Bool :=
  !(t.breakThenSpace || t.spaceThenBreak || t.hasSpecial)

/-- Whether a string can be a literal block. -/
def Traits.allowsLiteral (t : Traits) : Bool :=
  !(t.endsBlank || t.spaceThenBreak || t.hasSpecial)

/-- How a string is written. -/
def Style.of (s : String) : Style :=
  let cs := s.toList
  let t := Traits.of cs
  if cs.contains '\n' then if t.allowsLiteral then .literal else .doubleQuoted
  else if t.allowsPlain && !readsAsOther s then .plain
  else if t.allowsSingle then .singleQuoted
  else .doubleQuoted

/-- Blanks. -/
def blanks (n : Nat) : List Char := List.replicate n ' '

/-- The inside of a single-quoted string. Quotes are doubled, and what follows a break is
indented. -/
def singleBody (indent : Nat) (afterBreak : Bool) : List Char → List Char
  | [] => if afterBreak then blanks indent else []
  | c :: rest =>
    if isBreak c then c :: singleBody indent true rest
    else
      (if afterBreak then blanks indent else []) ++
        (if c = '\x27' then [c, c] else [c]) ++ singleBody indent false rest

/-- An upper-case hexadecimal number of a fixed width. -/
def hexUpper (width n : Nat) : List Char :=
  let digits := (Nat.toDigits 16 n).map Char.toUpper
  List.replicate (width - digits.length) '0' ++ digits

/-- A character inside double quotes. -/
def doubleChar (c : Char) : List Char :=
  if c = '"' then ['\\', '"']
  else if c = '\\' then ['\\', '\\']
  else if isPrintable c && !isBreak c then [c]
  else match c.toNat with
    | 0x00 => ['\\', '0']
    | 0x07 => ['\\', 'a']
    | 0x08 => ['\\', 'b']
    | 0x09 => ['\\', 't']
    | 0x0A => ['\\', 'n']
    | 0x0B => ['\\', 'v']
    | 0x0C => ['\\', 'f']
    | 0x0D => ['\\', 'r']
    | 0x1B => ['\\', 'e']
    | 0x85 => ['\\', 'N']
    | 0xA0 => ['\\', '_']
    | 0x2028 => ['\\', 'L']
    | 0x2029 => ['\\', 'P']
    | n =>
      if n ≤ 0xFF then '\\' :: 'x' :: hexUpper 2 n
      else if n ≤ 0xFFFF then '\\' :: 'u' :: hexUpper 4 n
      else '\\' :: 'U' :: hexUpper 8 n

/-- The lines of a literal block, indented. -/
def literalBody (indent : Nat) (afterBreak : Bool) : List Char → List Char
  | [] => []
  | c :: rest =>
    if isBreak c then c :: literalBody indent true rest
    else
      (if afterBreak then blanks indent else []) ++ c :: literalBody indent false rest

/-- What stands after the bar of a literal block: how far it is indented, if its first line
does not show that, and what becomes of the breaks at its end. -/
def literalHints (cs : List Char) : List Char :=
  let indentHint := if cs.head?.any (fun c => c = ' ' || isBreak c) then ['2'] else []
  let chomp := match cs.reverse with
    | [] => ['-']
    | [last] => if isBreak last then ['+'] else ['-']
    | last :: previous :: _ =>
      if !isBreak last then ['-'] else if isBreak previous then ['+'] else []
  indentHint ++ chomp

/-- A string, where its continuation lines are indented by `indent`. -/
def stringText (indent : Nat) (s : String) : String :=
  let cs := s.toList
  match Style.of s with
  | .plain => s
  | .singleQuoted => String.ofList ('\x27' :: singleBody indent false cs ++ ['\x27'])
  | .doubleQuoted => String.ofList ('"' :: cs.flatMap doubleChar ++ ['"'])
  | .literal =>
    String.ofList ('|' :: literalHints cs ++ '\n' :: literalBody indent true cs)

/-- Ends a line, unless the text has ended it already, as a literal block does that keeps
its last break; any kind of break will do. -/
def endLine (s : String) : String :=
  if s.toList.getLast?.any isBreak then s else s ++ "\n"

/-- Whether a key can be followed by a colon on its line. -/
def isSimpleKey (key : String) : Bool :=
  key.utf8ByteSize ≤ 128 && !key.toList.any isBreak

/-- The text of a value that has no parts, or none. -/
def leafText (indent : Nat) : Json → String
  | .null => "null"
  | .bool b => toString b
  | .int n => toString n
  | .real x => Double.text .yaml x
  | .str s => stringText indent s
  | .arr _ => "[]"
  | .obj _ => "\x7b\x7d"

/-- Some blanks. -/
def indentation (n : Nat) : String := String.ofList (blanks n)

mutual

/-- The entries of a mapping at an indentation; the first may stand on a line already
begun. -/
def entriesText (indent : Nat) (begun : Bool) : List (String × Json) → String
  | [] => ""
  | (key, v) :: rest =>
    (if begun then "" else indentation indent) ++
    (if isSimpleKey key then
      stringText (indent + 2) key ++ ":" ++ valueText indent v
    else
      endLine ("? " ++ stringText (indent + 2) key) ++ indentation indent ++ ":" ++
        compactText indent v) ++
    entriesText indent false rest

/-- The items of a sequence at an indentation. -/
def itemsText (indent : Nat) (begun : Bool) : List Json → String
  | [] => ""
  | v :: rest =>
    (if begun then "" else indentation indent) ++ "-" ++ compactText indent v ++
      itemsText indent false rest

/-- A value after the colon of its key: a mapping begins on the next line. -/
def valueText (indent : Nat) : Json → String
  | .obj (e :: rest) => "\n" ++ entriesText (indent + 2) false (e :: rest)
  | .arr (v :: rest) => "\n" ++ itemsText indent false (v :: rest)
  | v => " " ++ endLine (leafText (indent + 2) v)

/-- A value after an indicator: a mapping begins on the same line. -/
def compactText (indent : Nat) : Json → String
  | .obj (e :: rest) => " " ++ entriesText (indent + 2) true (e :: rest)
  | .arr (v :: rest) => " " ++ itemsText (indent + 2) true (v :: rest)
  | v => " " ++ endLine (leafText (indent + 2) v)

end

/-- A value as a document. -/
def render : Json → String
  | .obj (e :: rest) => entriesText 0 false (e :: rest)
  | .arr (v :: rest) => itemsText 0 false (v :: rest)
  | v => endLine (leafText 2 v)

end Telemetry.Yaml
