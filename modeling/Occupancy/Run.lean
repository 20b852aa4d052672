import Occupancy.Chart.Surface
import Occupancy.Console
import Occupancy.Histogram.Alignment
import Occupancy.Run.Analysis

/-! A run over a results directory. The algorithms are taken one by one in the order of their descriptors: loaded,
reported on the console and drawn. The overlay comes last, of histograms brought to common levels. The first error
ends the run, and what has been printed and written until then stays. -/

namespace Occupancy.Run

/-- What a part of a run leaves behind: the files, what it printed, the drawing surface, and its result. -/
structure Outcome (α : Type) where
  files : FileSystem
  console : List ConsoleLine
  surface : Surface
  result : Except RunError α

namespace Outcome

variable {α β : Type}

/-- Goes on with what a successful part left behind. -/
def andThen (first : Outcome α) (next : FileSystem → Surface → α → Outcome β) : Outcome β :=
  match first.result with
  | .error e => ⟨first.files, first.console, first.surface, .error e⟩
  | .ok a =>
    let later := next first.files first.surface a
    { later with console := first.console ++ later.console }

def map (f : α → β) (o : Outcome α) : Outcome β := ⟨o.files, o.console, o.surface, o.result.map f⟩

end Outcome

/-- The part of a run that a chart makes: the entries before it are printed whether or not it can be drawn. -/
def charted {α : Type} (before : List ConsoleLine) (drawn : Chart.Drawn) (wrote : Path → ConsoleLine)
    (value : α) : Outcome α :=
  match drawn.result with
  | .error e => ⟨drawn.files, before, drawn.surface, .error (.charting e)⟩
  | .ok path => ⟨drawn.files, before ++ [wrote path], drawn.surface, .ok value⟩

/-- Loads, reports and draws one algorithm. -/
def reportOne (settings : Settings) (files : FileSystem) (surface : Surface) (path : Path) : Outcome Report :=
  match analyze files path settings.maxK with
  | .error e => ⟨files, [], surface, .error e⟩
  | .ok report =>
    charted (report.lines settings.quiet)
      (Chart.drawHistogram files surface report.descriptor report.histogram settings.chart settings.plotsDir)
      .wroteChart report

def reportAll (settings : Settings) (files : FileSystem) (surface : Surface) : List Path → Outcome (List Report)
  | [] => ⟨files, [], surface, .ok []⟩
  | path :: paths =>
    (reportOne settings files surface path).andThen fun files surface report =>
      (reportAll settings files surface paths).map (report :: ·)

/-- The series of the overlay, over the levels that all histograms have. -/
def overlaySeries (reports : List Report) : List Chart.Series :=
  reports.zipWith (fun report histogram => ⟨report.descriptor.algorithm, histogram⟩)
    (Histogram.align (reports.map Report.histogram))

/-- Draws the overlay if it is wanted. -/
def overlay (settings : Settings) (files : FileSystem) (surface : Surface) (reports : List Report) : Outcome Unit :=
  if settings.overlay then
    charted []
      (Chart.drawOverlay files surface (overlaySeries reports) settings.chart settings.plotsDir)
      .wroteOverlay ()
  else ⟨files, [], surface, .ok ()⟩

/-- Reports on the descriptors at the given paths and draws the overlay. -/
def chartAll (settings : Settings) (files : FileSystem) (surface : Surface) (paths : List Path) : Outcome Path :=
  ((reportAll settings files surface paths).andThen (overlay settings)).map fun _ => settings.plotsDir

/-- A whole run; its result is the directory with the charts. -/
def run (settings : Settings) (files : FileSystem) (surface : Surface) : Outcome Path :=
  match discover files settings.resultsDir with
  | .error e => ⟨files, [], surface, .error e⟩
  | .ok paths =>
    match files.ensureDirectory settings.plotsDir with
    | .error e => ⟨files, [], surface, .error (.inaccessible e)⟩
    | .ok files => chartAll settings files surface paths

/-- The last message of a run, and the status that the program ends with. A run has no total that 64 bits cannot hold, so
it does not end with an overflow. -/
def verdict : Except RunError Path → String × Nat
  | .ok plotsDir => ("✅ Plots written to " ++ plotsDir.text, 0)
  | .error e => ("Error: " ++ e.message, 1)

end Occupancy.Run
