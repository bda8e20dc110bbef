import Telemetry.Dict
import Telemetry.Double.Text
import Telemetry.Metrics.Sample

/-!
# Metric lines

A sample travels as one line: `NAME:VALUE|TYPE`, then the share of samples that are sent
if it is not all of them, then the tags. The tags of the sample itself come before those
of every sample, and nothing is escaped.
-/

namespace Telemetry.Metrics

/-- A number of nanoseconds in milliseconds. -/
def millisecondsOf (nanoseconds : Nat) : Float := Float.ofNat nanoseconds / 1000000.0

namespace Value

/-- The value as it is written. A duration off the clock is written as `T`. -/
def text : Value → String
  | .count n => toString n
  | .level n => toString n
  | .reading x => Double.text .plain x
  | .duration milliseconds => Double.text .plain milliseconds
  | .elapsed => "T"

/-- The letter of the type. -/
def letter : Value → String
  | .count _ => "c"
  | .level _ => "g"
  | .reading _ => "g"
  | .duration _ => "d"
  | .elapsed => "d"

end Value

/-- What the names of a client start with: the given text with one dot after it, however
many it ends in. Without a text there is nothing. -/
def nameStart (stem : String) : String :=
  if stem.isEmpty then ""
  else String.ofList (stem.toList.reverse.dropWhile (· = '.')).reverse ++ "."

/-- The line of a sample. -/
def line (stem : String) (rate : Float) (defaultTags : Dict String) (s : Sample) : String :=
  let tags := (s.tags ++ defaultTags.entries).map fun (k, v) => k ++ ":" ++ v
  nameStart stem ++ s.name ++ ":" ++ s.value.text ++ "|" ++ s.value.letter ++
    (if rate < 1.0 then "|@" ++ Double.text .plain rate else "") ++
    (if tags.isEmpty then "" else "|#" ++ String.intercalate "," tags)

end Telemetry.Metrics
