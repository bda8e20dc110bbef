/-!
# Metric samples

A sample is one measurement on its way to the metrics server: a count to add, a
gauge to set, or a time that something took.
-/

namespace Telemetry.Metrics

/-- What is measured. -/
inductive Value
  /-- An amount to add to a counter. -/
  | count (n : Int)
  /-- A level to set a gauge to. -/
  | level (n : Nat)
  /-- A level that need not be whole. -/
  | reading (x : Float)
  /-- A duration in milliseconds. -/
  | duration (milliseconds : Float)
  /-- A duration read off the clock while the program runs. -/
  | elapsed

/-- One measurement, with the tags given to it. -/
structure Sample where
  name : String
  value : Value
  tags : List (String × String) := []

/-- Whether there is anything to report: a counter is left alone by adding zero. -/
def Sample.isReported (s : Sample) : Bool :=
  match s.value with
  | .count n => n ≠ 0
  | _ => true

end Telemetry.Metrics
