import Occupancy.Path
import Occupancy.Report

/-! What a run prints. Each entry is printed with a line break behind it; the table of an algorithm has line breaks
of its own. -/

namespace Occupancy

inductive ConsoleLine
  | summary (d : Descriptor)
  | dtypeWarning (dtype : String)
  | table (r : Report)
  | wroteChart (path : Path)
  | wroteOverlay (path : Path)
deriving Repr, DecidableEq

namespace ConsoleLine

def text : ConsoleLine → String
  | summary d => Report.summary d
  | dtypeWarning dtype => s!"   ⚠️  countsDtype '{dtype}' is not int32, reading the counts as int32"
  | table r => r.table
  | wroteChart path => s!"   🖼️  Wrote {path.text}"
  | wroteOverlay path => s!"🖼️  Wrote {path.text}"

end ConsoleLine

/-- What is printed of a report: its summary, a warning if the counts are said to be of another type, and the table
if it is wanted. -/
def Report.lines (r : Report) (quiet : Bool) : List ConsoleLine :=
  [.summary r.descriptor]
  ++ (if r.descriptor.isInt32 then [] else [.dtypeWarning r.descriptor.countsDtype])
  ++ (if quiet then [] else [.table r])

/-- The text of entries one after the other. -/
def consoleText (entries : List ConsoleLine) : String := String.join (entries.map fun entry => entry.text ++ "\n")

end Occupancy
