import Telemetry.Events.Transmitter
import Telemetry.Proofs.Json.OneLine
import Telemetry.Proofs.Random.Source

/-!
# What a transmitter has written

A transmitter whose output is without fault writes the batches that it answers nothing about, one
line for each, and nothing of the others (`Transmitter.HasWritten.send`). So its output is told by
the batches that were taken (`outputOf`), however often the collector was down: if no line has a
break in it, the lines can be taken apart again (`split_text_outputOf`), and the counts are those of
the batches.
-/

namespace Telemetry.Events

variable {E : Type} {line : Batch E → String} {batches : List (Batch E)}

/-! ### The output of some batches -/

/-- **The output that some batches amount to**, earliest first. -/
def outputOf (line : Batch E → String) (batches : List (Batch E)) : Output :=
  batches.foldl (fun o b => o.add (line b) b.events.length) {}

theorem outputOf_concat (line : Batch E → String) (batches : List (Batch E)) (batch : Batch E) :
    outputOf line (batches ++ [batch]) =
      (outputOf line batches).add (line batch) batch.events.length := by
  rw [outputOf, List.foldl_append, List.foldl_cons, List.foldl_nil, outputOf]

theorem batches_outputOf (line : Batch E → String) (batches : List (Batch E)) :
    (outputOf line batches).batches = batches.length := by
  induction batches using List.reverseRecOn with
  | nil => rfl
  | append_singleton batches batch ih =>
    rw [outputOf_concat, Output.add, ih, List.length_append, List.length_singleton]

theorem events_outputOf (line : Batch E → String) (batches : List (Batch E)) :
    (outputOf line batches).events = (batches.map (·.events.length)).sum := by
  induction batches using List.reverseRecOn with
  | nil => rfl
  | append_singleton batches batch ih =>
    rw [outputOf_concat, Output.add, ih, List.map_append, List.sum_append, List.map_singleton,
      List.sum_singleton]

theorem text_outputOf (line : Batch E → String) (batches : List (Batch E)) :
    (outputOf line batches).text = String.join ((batches.map line).map (· ++ "\n")) := by
  induction batches using List.reverseRecOn with
  | nil => rfl
  | append_singleton batches batch ih =>
    rw [outputOf_concat, Output.add, ih, List.map_append, List.map_append, String.join_append,
      String.append_assoc]
    rfl

/-- **An output of lines** can be taken apart again. -/
theorem split_text_outputOf (hline : ∀ b ∈ batches, IsOneLine (line b)) :
    ((outputOf line batches).text.split '\n').toList.map (·.copy) = batches.map line ++ [""] := by
  rw [text_outputOf]
  refine split_lines fun text htext => ?_
  obtain ⟨b, hb, rfl⟩ := List.mem_map.1 htext
  exact hline b hb

/-! ### Sending -/

namespace Transmitter

/-- **A transmitter whose output is without fault** finds the collector down, or writes the
batch. -/
theorem send_of_faultless {t : Transmitter E} (h : t.fault = none) (batch : Batch E) :
    t.send batch =
      if (t.random.chance t.failRate).1 then
        (some outage, { t with random := (t.random.chance t.failRate).2 })
      else (none, { t with
        random := (t.random.chance t.failRate).2
        output := t.output.add (t.line batch) batch.events.length }) := by
  rw [send]
  simp only [h]

/-- **A transmitter that has written some batches**, earliest first, and nothing else. -/
structure HasWritten (t : Transmitter E) (line : Batch E → String) (batches : List (Batch E)) :
    Prop where
  output : t.output = outputOf line batches
  line : t.line = line
  fault : t.fault = none

/-- A new transmitter has written nothing. -/
theorem hasWritten_create (line : Batch E → String) (failRate : Float) (seed : UInt64) :
    (create line failRate seed none).HasWritten line [] := ⟨rfl, rfl, rfl⟩

/-- **A batch is written exactly if it is taken.** -/
theorem HasWritten.send {t : Transmitter E} (h : t.HasWritten line batches) (batch : Batch E) :
    (t.send batch).2.HasWritten line
      (if (t.send batch).1 = none then batches ++ [batch] else batches) := by
  rw [t.send_of_faultless h.fault]
  split
  next => exact ⟨h.output, h.line, h.fault⟩
  next =>
    refine ⟨?_, h.line, h.fault⟩
    rw [if_pos rfl, outputOf_concat, h.output, h.line]

/-- A transmitter that never finds the collector down takes every batch. -/
theorem send_of_failRate_zero {t : Transmitter E} (hrate : t.failRate == 0.0)
    (hfault : t.fault = none) (batch : Batch E) : (t.send batch).1 = none := by
  rw [t.send_of_faultless hfault, t.random.chance_zero hrate]
  rfl

end Transmitter

end Telemetry.Events
