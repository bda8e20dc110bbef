import Telemetry.Text.Natural
import Telemetry.Yaml.Cursor
import Telemetry.Yaml.Token

/-!
# Scalars in a text

A plain or quoted scalar may go on over several lines. Between two of its words stands a
`Gap`: blanks within a line are kept, a single break becomes a blank, and of several breaks
the first is dropped. A block scalar keeps its lines apart, or folds them in the same way.
-/

namespace Telemetry.Yaml

/-! ### Gaps between words -/

/-- What stands between two words of a scalar. -/
structure Gap where
  /-- Blanks, as long as there is no break. -/
  blanks : List Char := []
  /-- Whether there is a break. -/
  isBroken : Bool := false
  /-- The first break, unless it was escaped. -/
  firstBreak : Option Char := none
  /-- The breaks after it. -/
  otherBreaks : List Char := []

namespace Gap

/-- Adds a break. -/
def withBreak (g : Gap) (c : Char) : Gap :=
  if g.isBroken then { g with otherBreaks := g.otherBreaks ++ [c] }
  else ⟨[], true, some c, []⟩

/-- What a gap amounts to. -/
def text (g : Gap) : List Char :=
  if !g.isBroken then g.blanks
  else match g.firstBreak with
    | some '\n' => if g.otherBreaks.isEmpty then [' '] else g.otherBreaks
    | first => first.toList ++ g.otherBreaks

/-- Reads on through blanks and breaks. After a break, a tab must not stand before the
column `margin`. -/
def readFrom (margin : Nat) (g : Gap) (p : Place) : List Char → Option (Gap × Cursor)
  | '\r' :: '\n' :: rest => readFrom margin (g.withBreak '\n') (p.nextLine 2) rest
  | c :: rest =>
    if isBlank c then
      if g.isBroken then
        if c = '\t' && p.column < margin then none else readFrom margin g (p.after 1) rest
      else readFrom margin { g with blanks := g.blanks ++ [c] } (p.after 1) rest
    else if isBreak c then readFrom margin (g.withBreak (normalBreak c)) (p.nextLine 1) rest
    else some (g, ⟨c :: rest, p⟩)
  | [] => some (g, ⟨[], p⟩)

/-- The gap at a cursor, of which a beginning may have been read. -/
def read (margin : Nat) (g : Gap) (c : Cursor) : Option (Gap × Cursor) :=
  readFrom margin g c.place c.rest

end Gap

/-! ### Plain scalars -/

/-- The characters that end a plain scalar between brackets. -/
def flowIndicators : List Char := [',', '[', ']', '\x7b', '\x7d']

/-- A word of a plain scalar: up to a blank, a break, or what ends the scalar. Between
brackets a colon must not stand right before an indicator. -/
def plainWord (inFlow : Bool) (p : Place) : List Char → Option (List Char × Cursor)
  | [] => some ([], ⟨[], p⟩)
  | c :: rest =>
    let next := rest.head?
    if isBlankOrEnd (some c) then some ([], ⟨c :: rest, p⟩)
    else if inFlow && c = ':' && next.any fun x => x = '?' || flowIndicators.contains x then none
    else if (c = ':' && isBlankOrEnd next) || (inFlow && flowIndicators.contains c) then
      some ([], ⟨c :: rest, p⟩)
    else (plainWord inFlow (p.after 1) rest).map fun (word, c') => (c :: word, c')

/-- A scalar that has been read. -/
structure ReadScalar where
  style : ScalarStyle
  text : List Char
  cursor : Cursor
  /-- Whether reading it has ended on a later line than the text of it. -/
  endsBroken : Bool := false

/-- The words of a plain scalar and the gaps between them; `fuel` bounds how many. -/
def plainWords (inFlow : Bool) (margin : Nat) :
    Nat → List Char → Gap → Cursor → Option ReadScalar
  | 0, _, _, _ => none
  | fuel + 1, done, gap, c => do
    let stop : ReadScalar := ⟨.plain, done, c, gap.isBroken⟩
    if c.atDocumentMark || c.startsWith '#' then return stop
    let (word, c) ← plainWord inFlow c.place c.rest
    if word.isEmpty then return stop
    let done := done ++ gap.text ++ word
    if c.atEnd || !c.blankAt 0 then return ⟨.plain, done, c, false⟩
    let (gap, c) ← Gap.read margin {} c
    if !inFlow && c.column < margin then return ⟨.plain, done, c, gap.isBroken⟩
    plainWords inFlow margin fuel done gap c

/-- A plain scalar, of which every line but the first is indented by `margin` at least,
unless it stands between brackets. -/
def plainScalar? (inFlow : Bool) (margin : Nat) (c : Cursor) : Option ReadScalar :=
  plainWords inFlow margin (c.rest.length + 1) [] {} c

/-! ### Quoted scalars -/

/-- The character of an escape that is a single letter. -/
def letterEscape? (c : Char) : Option Char :=
  match c with
  | '0' => some '\x00'
  | 'a' => some '\x07'
  | 'b' => some '\x08'
  | 't' => some '\t'
  | '\t' => some '\t'
  | 'n' => some '\n'
  | 'v' => some '\x0b'
  | 'f' => some '\x0c'
  | 'r' => some '\r'
  | 'e' => some '\x1b'
  | ' ' => some ' '
  | '"' => some '"'
  | '/' => some '/'
  | '\\' => some '\\'
  | 'N' => some '\u0085'
  | '_' => some '\u00a0'
  | 'L' => some '\u2028'
  | 'P' => some '\u2029'
  | _ => none

/-- The character of some hexadecimal digits. -/
def codePoint? (digits : List Char) : Option Char := do
  let code ← digits.foldl (fun n? d => do return (← n?) * 16 + (← Text.hexDigit? d)) (some 0)
  if code.isValidChar then some (Char.ofNat code) else none

/-- A part of a quoted scalar: up to a blank, a break, or the closing quote. -/
structure QuotedPart where
  text : List Char
  cursor : Cursor
  /-- Whether it ends with an escaped break, which has been read. -/
  endsEscaped : Bool := false

/-- Puts a character in front of a part. -/
def QuotedPart.cons (c : Char) (part : QuotedPart) : QuotedPart :=
  { part with text := c :: part.text }

/-- A part in single quotes: a doubled quote stands for one. -/
def singlePart (p : Place) : List Char → QuotedPart
  | '\x27' :: '\x27' :: rest => (singlePart (p.after 2) rest).cons '\x27'
  | c :: rest =>
    if c = '\x27' || isBlankOrEnd (some c) then ⟨[], ⟨c :: rest, p⟩, false⟩
    else (singlePart (p.after 1) rest).cons c
  | [] => ⟨[], ⟨[], p⟩, false⟩

/-- A part in double quotes: a backslash starts an escape. -/
def doublePart (p : Place) : List Char → Option QuotedPart
  | '\\' :: '\r' :: '\n' :: rest => some ⟨[], ⟨rest, (p.after 1).nextLine 2⟩, true⟩
  | '\\' :: 'x' :: a :: b :: rest => do
    let c ← codePoint? [a, b]
    return (← doublePart (p.after 4) rest).cons c
  | '\\' :: 'u' :: a :: b :: c :: d :: rest => do
    let c ← codePoint? [a, b, c, d]
    return (← doublePart (p.after 6) rest).cons c
  | '\\' :: 'U' :: a :: b :: c :: d :: e :: f :: g :: h :: rest => do
    let c ← codePoint? [a, b, c, d, e, f, g, h]
    return (← doublePart (p.after 10) rest).cons c
  | '\\' :: c :: rest =>
    if isBreak c then some ⟨[], ⟨rest, (p.after 1).nextLine 1⟩, true⟩
    else do
      let c ← letterEscape? c
      return (← doublePart (p.after 2) rest).cons c
  | c :: rest =>
    if c = '\\' then none
    else if c = '"' || isBlankOrEnd (some c) then some ⟨[], ⟨c :: rest, p⟩, false⟩
    else (doublePart (p.after 1) rest).map (·.cons c)
  | [] => some ⟨[], ⟨[], p⟩, false⟩

/-- The parts of a quoted scalar and the gaps between them; `fuel` bounds how many. -/
def quotedParts (style : ScalarStyle) (quote : Char)
    (part? : Place → List Char → Option QuotedPart) :
    Nat → List Char → Cursor → Option ReadScalar
  | 0, _, _ => none
  | fuel + 1, done, c => do
    if c.atDocumentMark || c.atEnd then none
    let part ← part? c.place c.rest
    let done := done ++ part.text
    if part.cursor.startsWith quote then return ⟨style, done, part.cursor.skip 1, false⟩
    let (gap, c) ← Gap.read 0 { isBroken := part.endsEscaped } part.cursor
    quotedParts style quote part? fuel (done ++ gap.text) c

/-- A scalar in single quotes. -/
def singleScalar? (c : Cursor) : Option ReadScalar :=
  quotedParts .singleQuoted '\x27' (fun p cs => some (singlePart p cs)) (c.rest.length + 1) []
    (c.skip 1)

/-- A scalar in double quotes. -/
def doubleScalar? (c : Cursor) : Option ReadScalar :=
  quotedParts .doubleQuoted '"' doublePart (c.rest.length + 1) [] (c.skip 1)

/-! ### Block scalars -/

/-- What becomes of the breaks at the end of a block scalar. -/
inductive Chomping
  /-- None is kept. -/
  | strip
  /-- The break of the last line is kept. -/
  | clip
  /-- All are kept. -/
  | keep
  deriving DecidableEq, Repr

/-- The empty lines before a line of a block scalar. -/
structure EmptyLines where
  breaks : List Char
  /-- The greatest column reached by the blanks before them and before the line. -/
  deepest : Nat
  cursor : Cursor

/-- Reads empty lines and the indentation of the line after them. The indentation is not
known while the first line is looked for; a tab must not stand in it. -/
def emptyLines (indent : Option Nat) (deepest : Nat) (breaks : List Char) (p : Place) :
    List Char → Option EmptyLines
  | '\r' :: '\n' :: rest =>
    emptyLines indent (max deepest p.column) (breaks ++ ['\n']) (p.nextLine 2) rest
  | c :: rest =>
    let isInside := indent.all (p.column < ·)
    let deepest := max deepest p.column
    if isInside && c = ' ' then emptyLines indent deepest breaks (p.after 1) rest
    else if isInside && c = '\t' then none
    else if isBreak c then
      emptyLines indent deepest (breaks ++ [normalBreak c]) (p.nextLine 1) rest
    else some ⟨breaks, deepest, ⟨c :: rest, p⟩⟩
  | [] => some ⟨breaks, max deepest p.column, ⟨[], p⟩⟩

/-- A block scalar while it is read. -/
structure BlockState where
  text : List Char := []
  /-- The break of the last line. -/
  lastBreak : List Char := []
  /-- The breaks of empty lines after it. -/
  breaks : List Char := []
  /-- Whether the last line started with a blank. -/
  lastWasBlank : Bool := false

/-- Joins the breaks so far to the text before the next line. Folding turns a break between
two lines into a blank, or leaves it to the empty lines between them; lines that start with
a blank are not folded. -/
def BlockState.joined (folds isBlank : Bool) (s : BlockState) : List Char :=
  if folds && s.lastBreak = ['\n'] && !s.lastWasBlank && !isBlank then
    s.text ++ (if s.breaks.isEmpty then [' '] else []) ++ s.breaks
  else s.text ++ s.lastBreak ++ s.breaks

/-- The break at a cursor and what is after it. -/
def takeBreak (c : Cursor) : List Char × Cursor :=
  match c.peek? with
  | some x => if isBreak x then ([normalBreak x], c.skipBreak) else ([], c)
  | none => ([], c)

/-- The lines of a block scalar; `fuel` bounds how many. -/
def blockLines (folds : Bool) (indent : Nat) :
    Nat → BlockState → Cursor → Option (BlockState × Cursor)
  | 0, _, _ => none
  | fuel + 1, s, c =>
    if c.column = indent && !c.atEnd then do
      let startsBlank := c.peek?.any isBlank
      let (line, c) := c.restOfLine
      let (lastBreak, c) := takeBreak c
      let next ← emptyLines (some indent) 0 [] c.place c.rest
      blockLines folds indent fuel
        ⟨s.joined folds startsBlank ++ line, lastBreak, next.breaks, startsBlank⟩ next.cursor
    else some (s, c)

/-- The indentation given after a block indicator. -/
def indentHint? (c : Cursor) : Option (Option Nat × Cursor) :=
  match c.peek? with
  | some d =>
    if d = '0' then none
    else if d.isDigit then some (some (d.toNat - '0'.toNat), c.skip 1)
    else some (none, c)
  | none => some (none, c)

/-- The chomping given after a block indicator. -/
def chompingHint (c : Cursor) : Option Chomping × Cursor :=
  if c.startsWith '+' then (some .keep, c.skip 1)
  else if c.startsWith '-' then (some .strip, c.skip 1)
  else (none, c)

/-- Both hints after a block indicator, in either order. -/
def blockHints? (c : Cursor) : Option (Chomping × Option Nat × Cursor) := do
  match chompingHint c with
  | (some chomping, c) =>
    let (indent, c) ← indentHint? c
    return (chomping, indent, c)
  | (none, c) =>
    let (indent, c) ← indentHint? c
    if indent.isNone then return (.clip, none, c)
    let (chomping, c) := chompingHint c
    return (chomping.getD .clip, indent, c)

/-- A block scalar inside a block of indentation `parent`, or of none. -/
def blockScalar? (folds : Bool) (parent : Int) (c : Cursor) : Option ReadScalar := do
  let (chomping, hint, c) ← blockHints? (c.skip 1)
  let c ← c.finishLine?
  let first ← emptyLines (hint.map fun n => (max parent 0).toNat + n) 0 [] c.place c.rest
  let indent := match hint with
    | some n => (max parent 0).toNat + n
    | none => max first.deepest (max (parent + 1) 1).toNat
  let (s, c) ← blockLines folds indent (c.rest.length + 1) { breaks := first.breaks } first.cursor
  let text := match chomping with
    | .strip => s.text
    | .clip => s.text ++ s.lastBreak
    | .keep => s.text ++ s.lastBreak ++ s.breaks
  return ⟨if folds then .folded else .literal, text, c, false⟩

end Telemetry.Yaml
