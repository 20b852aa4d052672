import Occupancy.Histogram
import Occupancy.Report
import Occupancy.Run.Discovery
import Occupancy.Settings

/-! The reports on the algorithms of a results directory, without any output. -/

namespace Occupancy.Run

/-- The report on the algorithm of a descriptor. -/
def analyze (fs : FileSystem) (path : Path) (maxK : Option UInt32) : Except RunError Report :=
  match Loading.loadAlgorithm fs path with
  | .error e => .error (.loading e)
  | .ok a => .ok ⟨a.descriptor, Histogram.ofCounts a.counts maxK⟩

/-- The reports on all algorithms, or the first error. -/
def analyzeAll (fs : FileSystem) (maxK : Option UInt32) : List Path → Except RunError (List Report)
  | [] => .ok []
  | path :: paths =>
    match analyze fs path maxK with
    | .error e => .error e
    | .ok report => (analyzeAll fs maxK paths).map (report :: ·)

def analyzeDirectory (fs : FileSystem) (settings : Settings) : Except RunError (List Report) :=
  match discover fs settings.resultsDir with
  | .error e => .error e
  | .ok paths => analyzeAll fs settings.maxK paths

end Occupancy.Run
