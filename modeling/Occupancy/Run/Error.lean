import Occupancy.Chart.Error
import Occupancy.Loading

/-! Why a run over a results directory fails. -/

namespace Occupancy

inductive RunError
  | missingDirectory (dir : Path)
  | noDescriptors (dir : Path)
  | inaccessible (cause : IoError)
  | loading (cause : LoadError)
  | charting (cause : ChartError)

def RunError.message : RunError → String
  | missingDirectory dir => "Results directory does not exist: " ++ dir.text
  | noDescriptors dir => "No *.meta.json files found in " ++ dir.text
  | inaccessible cause => "Failed to access results directory: " ++ cause.message
  | loading cause => "Parsing error: " ++ cause.message
  | charting cause => "Plotting error: " ++ cause.message

end Occupancy
