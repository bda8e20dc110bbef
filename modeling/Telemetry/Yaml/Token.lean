/-!
# Tokens

A YAML text is made of *tokens*: scalars, indicators such as the dash of an item, and the
starts and ends of blocks that only the indentation shows.
-/

namespace Telemetry.Yaml

/-- How a scalar is written in a text. -/
inductive ScalarStyle
  | plain
  | singleQuoted
  | doubleQuoted
  | literal
  | folded
  deriving DecidableEq, Repr

/-- A token of a text. -/
inductive Token
  /-- The version that a document asks for. -/
  | version (major minor : Nat)
  /-- An abbreviation for the beginning of tags. -/
  | tagHandle (handle expansion : String)
  | documentStart
  | documentEnd
  | blockSequenceStart
  | blockMappingStart
  | blockEnd
  | flowSequenceStart
  | flowSequenceEnd
  | flowMappingStart
  | flowMappingEnd
  /-- The dash before an item. -/
  | blockEntry
  /-- The comma between entries. -/
  | flowEntry
  /-- What follows is a key: a question mark, or the position of the key itself. -/
  | key
  /-- The colon before a value. -/
  | value
  | alias (name : String)
  | anchor (name : String)
  | tag (handle suffix : String)
  | scalar (style : ScalarStyle) (text : String)
  deriving DecidableEq, Repr

end Telemetry.Yaml
