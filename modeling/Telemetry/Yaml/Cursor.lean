/-!
# Reading a text from front to back

In YAML the place of a character matters: its column tells how deep it stands, and its line
whether a key has ended. A `Cursor` is what is left to be read together with the place where
it begins.
-/

namespace Telemetry.Yaml

/-! ### Classes of characters -/

/-- A line break of any kind. -/
def isBreak (c : Char) : Bool :=
  c = '\n' || c = '\r' || c.toNat = 0x85 || c.toNat = 0x2028 || c.toNat = 0x2029

/-- A blank within a line. -/
def isBlank (c : Char) : Bool := c = ' ' || c = '\t'

/-- A blank, a break, or the end of the text. -/
def isBlankOrEnd : Option Char → Bool
  | none => true
  | some c => isBlank c || isBreak c || c.toNat = 0

/-- A letter of a name: of an anchor, a directive, or the handle of a tag. -/
def isNameChar (c : Char) : Bool := c.isAlphanum || c = '-' || c = '_'

/-- What a break amounts to: a line feed, unless it separates lines or paragraphs by itself. -/
def normalBreak (c : Char) : Char := if c.toNat = 0x2028 || c.toNat = 0x2029 then c else '\n'

/-! ### Places and cursors -/

/-- A place in a text. -/
structure Place where
  index : Nat := 0
  line : Nat := 0
  column : Nat := 0
  deriving DecidableEq, Repr, Inhabited

/-- The place after some characters of the same line. -/
def Place.after (p : Place) (n : Nat) : Place :=
  { p with index := p.index + n, column := p.column + n }

/-- The start of the next line, after a break of some characters. -/
def Place.nextLine (p : Place) (n : Nat) : Place := ⟨p.index + n, p.line + 1, 0⟩

/-- What is left of a text. -/
structure Cursor where
  rest : List Char
  place : Place := {}
  deriving Repr, Inhabited

namespace Cursor

/-- The next character. -/
def peek? (c : Cursor) : Option Char := c.rest.head?

/-- The character after some others. -/
def peekAt? (c : Cursor) (n : Nat) : Option Char := c.rest[n]?

/-- The column of the next character. -/
def column (c : Cursor) : Nat := c.place.column

/-- Whether nothing is left. -/
def atEnd (c : Cursor) : Bool := c.rest.isEmpty

/-- Whether a given character comes next. -/
def startsWith (c : Cursor) (x : Char) : Bool := c.peek? == some x

/-- Whether a line ends here. -/
def atLineEnd (c : Cursor) : Bool :=
  match c.peek? with
  | none => true
  | some x => isBreak x

/-- Whether a blank or the end of a line comes after some characters. -/
def blankAt (c : Cursor) (n : Nat) : Bool := isBlankOrEnd (c.peekAt? n)

/-- Goes past some characters of the line. -/
def skip (c : Cursor) (n : Nat) : Cursor := ⟨c.rest.drop n, c.place.after n⟩

/-- Goes past a break, if there is one here. -/
def skipBreak (c : Cursor) : Cursor :=
  match c.rest with
  | '\r' :: '\n' :: rest => ⟨rest, c.place.nextLine 2⟩
  | x :: rest => if isBreak x then ⟨rest, c.place.nextLine 1⟩ else c
  | [] => c

/-- The characters up to the first that fails a test, which breaks must fail. -/
def span (p : Char → Bool) (c : Cursor) : List Char × Cursor :=
  let found := c.rest.takeWhile p
  (found, c.skip found.length)

/-- Goes past blanks. -/
def skipBlanks (c : Cursor) : Cursor := (c.span isBlank).2

/-- The rest of the line. -/
def restOfLine (c : Cursor) : List Char × Cursor := c.span fun x => !isBreak x

/-- Goes past a comment, if there is one here. -/
def skipComment (c : Cursor) : Cursor := if c.startsWith '#' then c.restOfLine.2 else c

/-- Whether a line begins here with the mark of a document's start or end. -/
def atMark (c : Cursor) (x : Char) : Bool :=
  c.column = 0 && c.rest.take 3 = [x, x, x] && c.blankAt 3

/-- Whether a line begins here with either mark of a document. -/
def atDocumentMark (c : Cursor) : Bool := c.atMark '-' || c.atMark '.'

/-- Goes past blanks, a comment and the break after it; none if the line holds anything else. -/
def finishLine? (c : Cursor) : Option Cursor :=
  let c := c.skipBlanks.skipComment
  if c.atLineEnd then some c.skipBreak else none

end Cursor

end Telemetry.Yaml
