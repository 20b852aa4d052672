import Occupancy.Chart.Histogram
import Occupancy.Path

/-! The settings of a run over a directory with the results of a hash test. -/

namespace Occupancy

structure Settings where
  /-- Where the descriptors are. -/
  resultsDir : Path
  /-- The largest level that is shown; without it all levels are. -/
  maxK : Option UInt32
  /-- Whether a chart comparing all algorithms is drawn. -/
  overlay : Bool
  /-- Whether the tables are left out of the console output. -/
  quiet : Bool
  chart : Chart.Options
deriving Repr, DecidableEq

namespace Settings

def ofDirectory (dir : Path) : Settings := ⟨dir, none, false, false, Chart.Options.default⟩

/-- Where the charts for the results in a directory are written. -/
def plotsDirFor (dir : Path) : Path := dir.join ⟨"plots"⟩

def plotsDir (settings : Settings) : Path := plotsDirFor settings.resultsDir

end Settings

end Occupancy
