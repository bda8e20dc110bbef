import Telemetry.Yaml.Token.Property
import Telemetry.Yaml.Token.Scalar

/-!
# From text to tokens

Most tokens are written down, but three things only show in where the others stand:

* a *block* starts with the first token that stands deeper than the block around it, and
  ends with the first that stands less deep;
* a *key* need not be marked: the colon after it shows that something before was a key. The
  lexer remembers where a key may have begun (`PossibleKey`), and puts the tokens for it
  there when it meets the colon;
* whether a key may begin at all depends on the token before.

Between brackets the indentation means nothing.
-/

namespace Telemetry.Yaml

/-- A place where a key may have begun. -/
structure PossibleKey where
  place : Place
  /-- How many tokens stand before it. -/
  tokenNumber : Nat
  /-- Whether it stands where nothing but a key can. -/
  isRequired : Bool
  deriving Repr

/-- A lexer in the middle of a text. -/
structure Lexer where
  cursor : Cursor
  /-- The possible keys, one for each pair of brackets around and one outside, innermost
  first. -/
  keys : List (Option PossibleKey) := [none]
  /-- The indentation of the innermost block, and those of the blocks around it. -/
  indent : Int := -1
  outerIndents : List Int := []
  /-- Whether a key may begin here. -/
  allowsKey : Bool := true
  tokens : Array Token := #[]
  isDone : Bool := false

namespace Lexer

/-- Whether the lexer is between brackets. -/
def inFlow (l : Lexer) : Bool := 1 < l.keys.length

/-- Adds a token. -/
def emit (l : Lexer) (t : Token) : Lexer := { l with tokens := l.tokens.push t }

/-- Adds a token that is written in some characters. -/
def emitMark (l : Lexer) (t : Token) (width : Nat) : Lexer :=
  { l with cursor := l.cursor.skip width }.emit t

/-- Puts a token before those from a number on. -/
def insertAt (l : Lexer) (n : Nat) (t : Token) : Lexer :=
  { l with tokens := (l.tokens.take n).push t ++ l.tokens.drop n }

/-- Sets whether a key may begin next. -/
def allowing (l : Lexer) (yes : Bool) : Lexer := { l with allowsKey := yes }

/-! ### Possible keys -/

/-- The innermost possible key. -/
def possibleKey? (l : Lexer) : Option PossibleKey := l.keys.head?.join

/-- Replaces the innermost possible key. -/
def withKey (l : Lexer) (k : Option PossibleKey) : Lexer := { l with keys := k :: l.keys.tail }

/-- Gives up the innermost possible key, unless it is required. -/
def dropKey? (l : Lexer) : Option Lexer :=
  if l.possibleKey?.any (·.isRequired) then none else some (l.withKey none)

/-- Remembers that a key may begin here. -/
def saveKey? (l : Lexer) : Option Lexer :=
  if l.allowsKey then
    let isRequired := !l.inFlow && l.indent = l.cursor.column
    (l.dropKey?).map fun l => l.withKey (some ⟨l.cursor.place, l.tokens.size, isRequired⟩)
  else some l

/-- How long a key may be, counted in characters up to its colon. -/
def keyReach : Nat := 1024

/-- Whether a place is too far from a possible key for its colon. -/
def isStale (p : Place) (k : PossibleKey) : Bool :=
  k.place.line < p.line || k.place.index + keyReach < p.index

/-- Gives up the possible keys that are too far back. -/
def dropStale? (l : Lexer) : Option Lexer :=
  let stale := isStale l.cursor.place
  if l.keys.any fun k => k.any fun k => stale k && k.isRequired then none
  else some { l with keys := l.keys.map fun k => k.filter fun k => !stale k }

/-! ### Blocks -/

/-- Starts a block at a column that is deeper than the block around; its token goes before
those from a number on, if one is given. -/
def openBlock (l : Lexer) (column : Nat) (before : Option Nat) (t : Token) : Lexer :=
  if !l.inFlow && l.indent < column then
    let l := { l with outerIndents := l.indent :: l.outerIndents, indent := column }
    match before with
    | some n => l.insertAt n t
    | none => l.emit t
  else l

/-- Ends blocks that are deeper than a column, given the indentations around the innermost. -/
def closeFrom (column : Int) : List Int → Lexer → Lexer
  | [], l => l
  | outer :: rest, l =>
    if column < l.indent then
      closeFrom column rest ({ l with indent := outer, outerIndents := rest }.emit .blockEnd)
    else l

/-- Ends the blocks that are deeper than a column. -/
def closeBlocks (l : Lexer) (column : Int) : Lexer :=
  if l.inFlow then l else closeFrom column l.outerIndents l

/-! ### Between tokens -/

/-- The mark of the encoding, which may stand at the start of a line. -/
def isEncodingMark (c : Char) : Bool := c.toNat = 0xFEFF

/-- Goes past blanks, comments and breaks. Where a key may begin, tabs are no blanks. -/
def toNextToken : Nat → Lexer → Lexer
  | 0, l => l
  | fuel + 1, l =>
    let c := l.cursor
    let c := if c.column = 0 && c.peek?.any isEncodingMark then c.skip 1 else c
    let tabs := l.inFlow || !l.allowsKey
    let c := (c.span fun x => x = ' ' || (tabs && x = '\t')).2.skipComment
    if c.atEnd || !c.atLineEnd then { l with cursor := c }
    else toNextToken fuel { l with
      cursor := c.skipBreak
      allowsKey := l.allowsKey || !l.inFlow }

/-! ### Tokens -/

/-- The end of the text. -/
def finish? (l : Lexer) : Option Lexer :=
  ((l.closeBlocks (-1)).dropKey?).map fun l => { (l.allowing false) with isDone := true }

/-- A directive, or the mark of a document, for which all blocks end. -/
def outside? (l : Lexer) (read : Cursor → Option (Token × Cursor)) : Option Lexer := do
  let l ← (l.closeBlocks (-1)).dropKey?
  let (token, cursor) ← read l.cursor
  return { (l.allowing false) with cursor := cursor }.emit token

/-- An opening bracket, before which a key may begin. -/
def openBracket? (l : Lexer) (t : Token) : Option Lexer := do
  let l ← l.saveKey?
  return ({ l with keys := none :: l.keys }.allowing true).emitMark t 1

/-- A closing bracket. -/
def closeBracket? (l : Lexer) (t : Token) : Option Lexer := do
  let l ← l.dropKey?
  let keys := if l.inFlow then l.keys.tail else l.keys
  return ({ l with keys := keys }.allowing false).emitMark t 1

/-- A comma. -/
def comma? (l : Lexer) : Option Lexer := do
  let l ← l.dropKey?
  return (l.allowing true).emitMark .flowEntry 1

/-- The dash of an item. -/
def dash? (l : Lexer) : Option Lexer := do
  if !l.inFlow && !l.allowsKey then none
  let l ← (l.openBlock l.cursor.column none .blockSequenceStart).dropKey?
  return (l.allowing true).emitMark .blockEntry 1

/-- The question mark of a key. -/
def questionMark? (l : Lexer) : Option Lexer := do
  if !l.inFlow && !l.allowsKey then none
  let l ← (l.openBlock l.cursor.column none .blockMappingStart).dropKey?
  return (l.allowing !l.inFlow).emitMark .key 1

/-- The colon of a value: what may have been a key was one. -/
def colon? (l : Lexer) : Option Lexer :=
  match l.possibleKey? with
  | some k =>
    let l := (l.insertAt k.tokenNumber .key).openBlock k.place.column (some k.tokenNumber)
      .blockMappingStart
    some (((l.withKey none).allowing false).emitMark .value 1)
  | none =>
    if !l.inFlow && !l.allowsKey then none
    else
      let l := l.openBlock l.cursor.column none .blockMappingStart
      some ((l.allowing !l.inFlow).emitMark .value 1)

/-- An anchor, an alias or a tag, with which a key may begin. -/
def property? (l : Lexer) (read : Cursor → Option (Token × Cursor)) : Option Lexer := do
  let l ← l.saveKey?
  let (token, cursor) ← read l.cursor
  return { (l.allowing false) with cursor := cursor }.emit token

/-- Takes up a scalar that has been read. -/
def take (l : Lexer) (s : ReadScalar) : Lexer :=
  { l with cursor := s.cursor }.emit (.scalar s.style (String.ofList s.text))

/-- A block scalar, which is no key. -/
def block? (l : Lexer) (folds : Bool) : Option Lexer := do
  let l ← l.dropKey?
  let s ← blockScalar? folds l.indent l.cursor
  return (l.allowing true).take s

/-- A quoted scalar, which may be a key. -/
def quoted? (l : Lexer) (read : Cursor → Option ReadScalar) : Option Lexer := do
  let l ← l.saveKey?
  let s ← read l.cursor
  return (l.allowing false).take s

/-- A plain scalar, which may be a key. If it has ended on an earlier line, another key may
begin after it. -/
def plain? (l : Lexer) : Option Lexer := do
  let l ← l.saveKey?
  let s ← plainScalar? l.inFlow (l.indent + 1).toNat l.cursor
  return (l.allowing s.endsBroken).take s

/-- The characters with which no plain scalar begins. -/
def reserved : List Char :=
  ['-', '?', ':', ',', '[', ']', '\x7b', '\x7d', '#', '&', '*', '!', '|', '>', '\x27', '"', '%',
    '@', '\x60']

/-- Whether a plain scalar begins at a cursor. The dash, the question mark and the colon are
no indicators if no blank follows. -/
def startsPlain (inFlow : Bool) (c : Cursor) : Bool :=
  match c.peek? with
  | none => false
  | some x =>
    (!isBlankOrEnd (some x) && !reserved.contains x) ||
      (x = '-' && !(c.peekAt? 1).any isBlank) ||
      (!inFlow && (x = '?' || x = ':') && !c.blankAt 1)

/-- The next token, where the lexer stands at a character. -/
def tokenAt? (l : Lexer) (x : Char) : Option Lexer :=
  let c := l.cursor
  if c.column = 0 && x = '%' then l.outside? directive?
  else if c.atMark '-' then l.outside? fun c => some (.documentStart, c.skip 3)
  else if c.atMark '.' then l.outside? fun c => some (.documentEnd, c.skip 3)
  else if x = '[' then l.openBracket? .flowSequenceStart
  else if x = '\x7b' then l.openBracket? .flowMappingStart
  else if x = ']' then l.closeBracket? .flowSequenceEnd
  else if x = '\x7d' then l.closeBracket? .flowMappingEnd
  else if x = ',' then l.comma?
  else if x = '-' && c.blankAt 1 then l.dash?
  else if x = '?' && (l.inFlow || c.blankAt 1) then l.questionMark?
  else if x = ':' && (l.inFlow || c.blankAt 1) then l.colon?
  else if x = '*' then l.property? fun c => (anchorName? c).map fun (n, c) => (.alias n, c)
  else if x = '&' then l.property? fun c => (anchorName? c).map fun (n, c) => (.anchor n, c)
  else if x = '!' then l.property? (tag? l.inFlow)
  else if x = '|' && !l.inFlow then l.block? false
  else if x = '>' && !l.inFlow then l.block? true
  else if x = '\x27' then l.quoted? singleScalar?
  else if x = '"' then l.quoted? doubleScalar?
  else if startsPlain l.inFlow c then l.plain?
  else none

/-- **Reads the next token** and those that come with it. -/
def next? (l : Lexer) : Option Lexer := do
  let l ← (toNextToken (l.cursor.rest.length + 1) l).dropStale?
  match l.cursor.peek? with
  | none => l.finish?
  | some x => (l.closeBlocks l.cursor.column).tokenAt? x

/-- Reads all tokens; `fuel` bounds how often. -/
def run? : Nat → Lexer → Option (List Token)
  | 0, _ => none
  | fuel + 1, l => do
    let l ← l.next?
    if l.isDone then return l.tokens.toList
    run? fuel l

end Lexer

/-- Whether a character may stand in a text at all. -/
def isAllowed (c : Char) : Bool :=
  let n := c.toNat
  n = 0x09 || n = 0x0A || n = 0x0D || (0x20 ≤ n && n ≤ 0x7E) || n = 0x85 ||
    (0xA0 ≤ n && n ≠ 0xFFFE && n ≠ 0xFFFF)

/-- **The tokens of a text**, if it has no misplaced character. Every token but the last takes
a character at least. -/
def tokens? (text : String) : Option (List Token) :=
  let cs := text.toList
  if cs.all isAllowed then Lexer.run? (cs.length + 2) { cursor := { rest := cs } } else none

end Telemetry.Yaml
