import Telemetry.Text.Natural
import Telemetry.Yaml.Cursor
import Telemetry.Yaml.Token

/-!
# Anchors, tags and directives

A node may have a name to be referred to by, its *anchor*, and a *tag* for what it stands
for. A tag is written in full between angle brackets, or as a handle and a suffix; what a
handle is short for is set by a *directive* in front of the document.
-/

namespace Telemetry.Yaml

/-! ### Anchors -/

/-- The characters right after the name of an anchor, besides blanks and breaks. -/
def afterName : List Char := ['?', ':', ',', ']', '\x7d', '%', '@', '\x60']

/-- The name of an anchor or an alias, after its indicator. -/
def anchorName? (c : Cursor) : Option (String × Cursor) :=
  let (name, c) := (c.skip 1).span isNameChar
  if name.isEmpty then none
  else if c.blankAt 0 || c.peek?.any afterName.contains then some (String.ofList name, c)
  else none

/-! ### Tags -/

/-- The characters of a tag, besides those of names. -/
def tagMarks : List Char :=
  [';', '/', '?', ':', '@', '&', '=', '+', '$', '.', '!', '~', '*', '\x27', '(', ')']

/-- The characters that may only stand in a tag written in full. -/
def fullTagMarks : List Char := [',', '[', ']']

/-- The byte of an escape in a tag. -/
def tagByte? : List Char → Option Nat
  | '%' :: a :: b :: _ => do return (← Text.hexDigit? a) * 16 + (← Text.hexDigit? b)
  | _ => none

/-- How many escapes a character takes, by the first of them, and what the first gives to
its code point. -/
def leadingByte? (b : Nat) : Option (Nat × Nat) :=
  if b < 0x80 then some (1, b)
  else if b / 0x20 = 6 then some (2, b % 0x20)
  else if b / 0x10 = 14 then some (3, b % 0x10)
  else if b / 8 = 30 then some (4, b % 8)
  else none

/-- Reads the escapes of a character after the first. -/
def followingBytes? : Nat → Nat → List Char → Option Nat
  | 0, code, _ => some code
  | n + 1, code, cs => do
    let b ← tagByte? cs
    if b / 0x40 ≠ 2 then none
    followingBytes? n (code * 0x40 + b % 0x40) (cs.drop 3)

/-- A character of a tag that is written as escapes, and how many characters they take. -/
def escapedTagChar? (cs : List Char) : Option (Char × Nat) := do
  let (n, start) ← leadingByte? (← tagByte? cs)
  let code ← followingBytes? (n - 1) start (cs.drop 3)
  return (Char.ofNat code, 3 * n)

/-- The characters of a tag; `fuel` bounds how many. -/
def tagText? (isFull : Bool) : Nat → List Char → Cursor → Option (List Char × Cursor)
  | 0, _, _ => none
  | fuel + 1, done, c =>
    match c.rest with
    | [] => some (done, c)
    | x :: _ =>
      if x = '%' then do
        let (x, n) ← escapedTagChar? c.rest
        tagText? isFull fuel (done ++ [x]) (c.skip n)
      else if isNameChar x || tagMarks.contains x || (isFull && fullTagMarks.contains x) then
        tagText? isFull fuel (done ++ [x]) (c.skip 1)
      else some (done, c)

/-- The rest of a tag, which is not empty. -/
def fullTagText? (isFull : Bool) (c : Cursor) : Option (String × Cursor) := do
  let (text, c) ← tagText? isFull (c.rest.length + 1) [] c
  if text.isEmpty then none else some (String.ofList text, c)

/-- What stands between the exclamation marks of a handle, and whether there is a second one. -/
def handleName (c : Cursor) : List Char × Bool × Cursor :=
  let (name, c) := (c.skip 1).span isNameChar
  if c.startsWith '!' then (name, true, c.skip 1) else (name, false, c)

/-- The handle and the suffix of a tag. Only a second exclamation mark makes a handle: without
one, all after the first mark is the suffix, and a mark alone is a tag of its own. -/
def tagParts? (c : Cursor) : Option (String × String × Cursor) :=
  if c.peekAt? 1 = some '<' then do
    let (suffix, c) ← fullTagText? true (c.skip 2)
    if c.startsWith '>' then some ("", suffix, c.skip 1) else none
  else
    let (name, isHandle, after) := handleName c
    if isHandle then do
      let (suffix, c) ← fullTagText? false after
      return ("!" ++ String.ofList name ++ "!", suffix, c)
    else do
      let (suffix, c) ← tagText? false (c.rest.length + 1) name after
      return if suffix.isEmpty then ("", "!", c) else ("!", String.ofList suffix, c)

/-- A tag, and a blank after it. Between brackets a comma may follow as well. -/
def tag? (inFlow : Bool) (c : Cursor) : Option (Token × Cursor) := do
  let (handle, suffix, c) ← tagParts? c
  if c.blankAt 0 || (inFlow && c.startsWith ',') then some (.tag handle suffix, c) else none

/-! ### Directives -/

/-- A number in a version, of nine digits at most. -/
def versionNumber? (c : Cursor) : Option (Nat × Cursor) :=
  let (digits, c) := c.span Char.isDigit
  if digits.isEmpty || 9 < digits.length then none else some (Text.digitsValue digits, c)

/-- The version that a document asks for. -/
def version? (c : Cursor) : Option (Token × Cursor) := do
  let (major, c) ← versionNumber? c.skipBlanks
  if !c.startsWith '.' then none
  let (minor, c) ← versionNumber? (c.skip 1)
  return (.version major minor, c)

/-- What a handle is short for. -/
def tagHandle? (c : Cursor) : Option (Token × Cursor) := do
  let c := c.skipBlanks
  if !c.startsWith '!' then none
  let (name, isClosed, c) := handleName c
  if !isClosed && !name.isEmpty then none
  let handle := "!" ++ String.ofList name ++ if isClosed then "!" else ""
  if !c.peek?.any isBlank then none
  let (expansion, c) ← fullTagText? true c.skipBlanks
  if c.blankAt 0 then some (.tagHandle handle expansion, c) else none

/-- A directive with its line. -/
def directive? (c : Cursor) : Option (Token × Cursor) := do
  let (name, c) := (c.skip 1).span isNameChar
  if !c.blankAt 0 then none
  let (token, c) ←
    if name = "YAML".toList then version? c
    else if name = "TAG".toList then tagHandle? c
    else none
  return (token, ← c.finishLine?)

end Telemetry.Yaml
