import Occupancy.Console

/-! The text that a run prints, entry after entry. A report is printed in one to three entries: the line that sums it up, a
warning where its counts are said to be of another type than they are read as, and the table. -/

namespace Occupancy

theorem consoleText_append (first second : List ConsoleLine) :
    consoleText (first ++ second) = consoleText first ++ consoleText second := by
  rw [consoleText, List.map_append, String.join_append]
  rfl

theorem consoleText_singleton (entry : ConsoleLine) : consoleText [entry] = entry.text ++ "\n" := by
  rw [consoleText, List.map_singleton, String.join_cons, String.join_nil, String.append_empty]

/-- The text printed of parts is that of each part in turn. -/
theorem consoleText_flatMap {α : Type} (part : α → List ConsoleLine) (parts : List α) :
    consoleText (parts.flatMap part) = String.join (parts.map fun a => consoleText (part a)) := by
  induction parts with
  | nil => rfl
  | cons a parts ih => rw [List.flatMap_cons, consoleText_append, ih, List.map_cons, String.join_cons]

/-- What is printed of a report, as one text. -/
def Report.text (r : Report) (quiet : Bool) : String :=
  let d := r.descriptor
  s!"📊 {d.algorithm}: {d.numInputs} inputs into {d.numBuckets} buckets, λ={Decimal.fixed 4 d.rate} "
    ++ s!"(counts: {Text.sizeText (countsSize d)})" ++ "\n"
    ++ (if d.isInt32 then ""
      else s!"   ⚠️  countsDtype '{d.countsDtype}' is not int32, reading the counts as int32" ++ "\n")
    ++ (if quiet then "" else r.table ++ "\n")

theorem consoleText_lines (r : Report) (quiet : Bool) : consoleText (r.lines quiet) = r.text quiet := by
  have hwarning : consoleText (if r.descriptor.isInt32 then [] else [.dtypeWarning r.descriptor.countsDtype]) =
      if r.descriptor.isInt32 then "" else (ConsoleLine.dtypeWarning r.descriptor.countsDtype).text ++ "\n" := by
    split
    · rfl
    · exact consoleText_singleton _
  have htable : consoleText (if quiet then [] else [.table r]) = if quiet then "" else r.table ++ "\n" := by
    cases quiet with
    | false => exact consoleText_singleton _
    | true => rfl
  rw [Report.lines, consoleText_append, consoleText_append, hwarning, htable, consoleText_singleton]
  rfl

end Occupancy
