import Telemetry.Dict
import Telemetry.Yaml.Token.Lexer

/-!
# Documents as trees

A document is a tree of scalars, sequences and mappings. A node may be given a name by an
anchor, and an alias stands for the node of that name. Names may be given again; so a node
that is named gets a *number*, and aliases hold numbers.

| what is read | by |
|---|---|
| one node | `Build.node` |
| the items and entries of a block | `Build.blockItems`, `Build.blockEntries` |
| those between brackets | `Build.flowItems`, `Build.flowEntries` |
| the only document of a text | `Document.read?` |
-/

namespace Telemetry.Yaml

/-- A node of a document. -/
inductive Node
  | scalar (tag : Option String) (style : ScalarStyle) (text : String)
  | sequence (items : List Node)
  | mapping (entries : List (Node × Node))
  /-- Stands for the node of a number. -/
  | alias (number : Nat)
  deriving Inhabited

/-- The node of a place where nothing is written. -/
def Node.nothing : Node := .scalar none .plain ""

/-- What the parts of a node are read from, and what has been named so far. -/
structure Build where
  tokens : List Token
  /-- What the handles of tags are short for. -/
  handles : List (String × String)
  /-- The numbers of the names. -/
  names : Dict Nat := .empty
  /-- The named nodes by their numbers, in the order in which they begin; of a number given
  twice, the last counts. A node is there once it has ended. -/
  named : Array (Nat × Option Node) := #[]

/-- What stands in front of a node. -/
structure Properties where
  anchor : Option String := none
  tag : Option (String × String) := none

namespace Build

/-- The next token. -/
def peek? (b : Build) : Option Token := b.tokens.head?

/-- The state after the next token. -/
def advance (b : Build) : Build := { b with tokens := b.tokens.tail }

/-- Whether the next token is one of some. -/
def isAt (b : Build) (ts : List Token) : Bool := b.peek?.any ts.contains

/-- The anchor and the tag in front of a node, in either order. -/
def properties (b : Build) : Properties × Build :=
  match b.tokens with
  | .anchor name :: .tag handle suffix :: rest =>
    (⟨some name, some (handle, suffix)⟩, { b with tokens := rest })
  | .tag handle suffix :: .anchor name :: rest =>
    (⟨some name, some (handle, suffix)⟩, { b with tokens := rest })
  | .anchor name :: rest => (⟨some name, none⟩, { b with tokens := rest })
  | .tag handle suffix :: rest => (⟨none, some (handle, suffix)⟩, { b with tokens := rest })
  | _ => ({}, b)

/-- A tag in full: none if there is none, an error if its handle stands for nothing. -/
def fullTag? (b : Build) : Option (String × String) → Option (Option String)
  | none => some none
  | some (handle, suffix) =>
    if handle.isEmpty then some (some suffix)
    else (b.handles.lookup handle).map fun expansion => some (expansion ++ suffix)

/-- Numbers a node that is about to begin, if it has a name. The number counts the names
given before; where it will stand among the named nodes is told as well. -/
def name (b : Build) : Option String → Option Nat × Build
  | none => (none, b)
  | some name =>
    let number := b.names.size
    (some b.named.size,
      { b with names := b.names.insert name number, named := b.named.push (number, none) })

/-- Keeps a node that has ended, if it has a name. -/
def keep (b : Build) (slot : Option Nat) (n : Node) : Build :=
  match slot with
  | some i => { b with named := b.named.modify i fun (number, _) => (number, some n) }
  | none => b

/-- The node of an alias. -/
def aliasOf? (b : Build) (name : String) : Option Node := (b.names.get? name).map .alias

/-- The tokens before which nothing stands for a key or a value of a block. -/
def blockStops : List Token := [.key, .value, .blockEnd]

/-- A node of which only the anchor or the tag is written. -/
def unwritten (isMarked : Bool) (tag : Option String) (b : Build) : Option (Node × Build) :=
  if isMarked then some (.scalar tag .plain "", b) else none

mutual

/-- A node. Sequences and mappings without brackets are only read `inBlock`; `bare` allows a
sequence that is no deeper than the mapping around it. `fuel` bounds how many tokens are
read. -/
def node (inBlock bare : Bool) : Nat → Build → Option (Node × Build)
  | 0, _ => none
  | fuel + 1, b =>
    match b.peek? with
    | some (.alias name) => (b.aliasOf? name).map fun n => (n, b.advance)
    | _ => do
      let (properties, b) := b.properties
      let tag ← b.fullTag? properties.tag
      let isMarked := properties.anchor.isSome || properties.tag.isSome
      let (slot, b') := b.name properties.anchor
      let (n, b) ← match b.peek? with
        | some .blockEntry => if bare then bareItems fuel [] b' else unwritten isMarked tag b'
        | some (.scalar style text) => some (.scalar tag style text, b'.advance)
        | some .flowSequenceStart => flowItems fuel true [] b'.advance
        | some .flowMappingStart => flowEntries fuel true [] b'.advance
        | some .blockSequenceStart =>
          if inBlock then blockItems fuel [] b'.advance else unwritten isMarked tag b'
        | some .blockMappingStart =>
          if inBlock then blockEntries fuel [] b'.advance else unwritten isMarked tag b'
        | _ => unwritten isMarked tag b'
      return (n, b.keep slot n)

/-- A node, or nothing before one of some tokens. -/
def nodeUnless (stops : List Token) (inBlock bare : Bool) :
    Nat → Build → Option (Node × Build)
  | 0, _ => none
  | fuel + 1, b => if b.isAt stops then some (.nothing, b) else node inBlock bare fuel b

/-- The items of a sequence up to the end of its block; `done` holds those read so far, last
first. -/
def blockItems : Nat → List Node → Build → Option (Node × Build)
  | 0, _, _ => none
  | fuel + 1, done, b =>
    match b.peek? with
    | some .blockEntry => do
      let (n, b) ← nodeUnless [.blockEntry, .blockEnd] true false fuel b.advance
      blockItems fuel (n :: done) b
    | some .blockEnd => some (.sequence done.reverse, b.advance)
    | _ => none

/-- The items of a sequence that has no block of its own. -/
def bareItems : Nat → List Node → Build → Option (Node × Build)
  | 0, _, _ => none
  | fuel + 1, done, b =>
    match b.peek? with
    | some .blockEntry => do
      let (n, b) ← nodeUnless (.blockEntry :: blockStops) true false fuel b.advance
      bareItems fuel (n :: done) b
    | _ => some (.sequence done.reverse, b)

/-- The entries of a mapping up to the end of its block. -/
def blockEntries : Nat → List (Node × Node) → Build → Option (Node × Build)
  | 0, _, _ => none
  | fuel + 1, done, b =>
    match b.peek? with
    | some .key => do
      let (k, b) ← nodeUnless blockStops true true fuel b.advance
      let (v, b) ← if b.isAt [.value] then nodeUnless blockStops true true fuel b.advance
        else some (.nothing, b)
      blockEntries fuel ((k, v) :: done) b
    | some .blockEnd => some (.mapping done.reverse, b.advance)
    | _ => none

/-- The items of a sequence up to its closing bracket. An item may be a single entry of a
mapping. -/
def flowItems : Nat → Bool → List Node → Build → Option (Node × Build)
  | 0, _, _, _ => none
  | fuel + 1, isFirst, done, b =>
    if b.isAt [.flowSequenceEnd] then some (.sequence done.reverse, b.advance)
    else if !isFirst && !b.isAt [.flowEntry] then none
    else
      let b := if isFirst then b else b.advance
      if b.isAt [.key] then do
        let (n, b) ← singleEntry fuel b.advance
        flowItems fuel false (n :: done) b
      else if b.isAt [.flowSequenceEnd] then some (.sequence done.reverse, b.advance)
      else do
        let (n, b) ← node false false fuel b
        flowItems fuel false (n :: done) b

/-- An item that is a single entry. If its key is not written, the token there goes with it. -/
def singleEntry : Nat → Build → Option (Node × Build)
  | 0, _ => none
  | fuel + 1, b => do
    let (k, b) ←
      if b.isAt [.value, .flowEntry, .flowSequenceEnd] then some (.nothing, b.advance)
      else node false false fuel b
    let (v, b) ←
      if b.isAt [.value] then
        nodeUnless [.flowEntry, .flowSequenceEnd] false false fuel b.advance
      else some (.nothing, b)
    return (.mapping [(k, v)], b)

/-- The entries of a mapping up to its closing bracket. A key without a mark has no value. -/
def flowEntries : Nat → Bool → List (Node × Node) → Build → Option (Node × Build)
  | 0, _, _, _ => none
  | fuel + 1, isFirst, done, b =>
    if b.isAt [.flowMappingEnd] then some (.mapping done.reverse, b.advance)
    else if !isFirst && !b.isAt [.flowEntry] then none
    else
      let b := if isFirst then b else b.advance
      if b.isAt [.key] then do
        let (k, b) ← nodeUnless [.value, .flowEntry, .flowMappingEnd] false false fuel b.advance
        let (v, b) ←
          if b.isAt [.value] then
            nodeUnless [.flowEntry, .flowMappingEnd] false false fuel b.advance
          else some (.nothing, b)
        flowEntries fuel false ((k, v) :: done) b
      else if b.isAt [.flowMappingEnd] then some (.mapping done.reverse, b.advance)
      else do
        let (k, b) ← node false false fuel b
        flowEntries fuel false ((k, .nothing) :: done) b

end

end Build

/-! ### Documents -/

/-- A document: its root and its named nodes. -/
structure Document where
  root : Node
  named : List (Nat × Node) := []
  deriving Inhabited

/-- The node of a number. -/
def Document.find? (d : Document) (number : Nat) : Option Node :=
  (d.named.filter (·.1 = number)).getLast?.map (·.2)

/-- The handles that need no directive. -/
def standardHandles : List (String × String) := [("!", "!"), ("!!", "tag:yaml.org,2002:")]

/-- The directives in front of a document: what handles are short for, and the tokens after
them. No directive may be given twice, and the version must be one of the first. -/
def directives? (hasVersion : Bool) (handles : List (String × String)) :
    List Token → Option (List (String × String) × List Token)
  | .version major minor :: rest =>
    if hasVersion || major ≠ 1 || (minor ≠ 1 && minor ≠ 2) then none
    else directives? true handles rest
  | .tagHandle handle expansion :: rest =>
    if handles.any (·.1 = handle) then none
    else directives? hasVersion (handles ++ [(handle, expansion)]) rest
  | rest => some (handles ++ standardHandles, rest)

/-- Whether a token ends the content of a document. -/
def endsContent : Token → Bool
  | .version .. => true
  | .tagHandle .. => true
  | .documentStart => true
  | .documentEnd => true
  | _ => false

/-- The root of a document, which need not be written after the mark of its start. -/
def rootOf? (isMarked : Bool) (b : Build) : Option (Node × Build) :=
  if isMarked && b.peek?.all endsContent then some (.nothing, b)
  else Build.node true false (4 * b.tokens.length + 4) b

/-- The only document of some tokens: after it, there are only marks of its end. Without any
token, nothing is written. -/
def Document.ofTokens? (tokens : List Token) : Option Document := do
  if tokens.isEmpty then return { root := .nothing }
  let (handles, rest) ← directives? false [] tokens
  let isMarked := rest.head? = some .documentStart
  if !isMarked && tokens.length ≠ rest.length then none
  let (root, b) ← rootOf? isMarked
    { tokens := if isMarked then rest.tail else rest, handles := handles }
  if b.tokens.all (· = .documentEnd) then
    return ⟨root, b.named.toList.filterMap fun (number, n) => n.map (number, ·)⟩
  else none

/-- **The document of a text** that has at most one. -/
def Document.read? (text : String) : Option Document := (tokens? text).bind Document.ofTokens?

end Telemetry.Yaml
