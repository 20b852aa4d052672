import Occupancy.Chart.Error
import Occupancy.Chart.Overlay
import Occupancy.Chart.FileName
import Occupancy.FileSystem.Write

/-! Drawing charts to files. The calls of a drawing are made one after the other; some of them can fail, and then
no later call is made. The file is written by the last call, so that a chart that fails leaves no file behind. -/

namespace Occupancy

/-- The calls that can fail. -/
inductive Stage
  | fill
  | build
  | mesh
  | series
  | seriesLabels
  | present
deriving Repr, DecidableEq

namespace Stage

def all : List Stage := [fill, build, mesh, series, seriesLabels, present]

def name : Stage → String
  | fill => "fill"
  | build => "build"
  | mesh => "mesh"
  | series => "series"
  | seriesLabels => "series_labels"
  | present => "present"

def ofName? (name : String) : Option Stage := all.find? (·.name == name)

/-- The error of a chart whose call at this stage fails. -/
def error (stage : Stage) (reason : String) : ChartError :=
  match stage with
  | fill => .drawingArea reason
  | build => .chartConfig reason
  | mesh | series | seriesLabels | present => .drawing reason

theorem ofName?_name (stage : Stage) : ofName? stage.name = some stage := by cases stage <;> decide

end Stage

def Call.stage? {α : Type} : Call α → Option Stage
  | .fill _ => some .fill
  | .axes _ _ _ => some .build
  | .mesh _ => some .mesh
  | .series _ => some .series
  | .seriesLabels _ _ _ _ => some .seriesLabels
  | .present => some .present
  | .bitmap _ _ | .caption _ _ | .margin _ | .xLabelArea _ | .yLabelArea _ | .label _ | .legend _ => none

/-- A surface to draw on. A faulty one fails once: at the call of its stage that the countdown counts to, from the
next one on. With a countdown of zero no call fails any more. -/
inductive Surface
  | sound
  | faulty (stage : Stage) (countdown : Nat)
deriving Repr, DecidableEq

namespace Surface

/-- Whether a call at a stage fails. -/
def fails : Surface → Stage → Bool
  | sound, _ => false
  | faulty stage countdown, call => stage = call && countdown == 1

/-- The surface after a call at a stage. -/
def after : Surface → Stage → Surface
  | sound, _ => sound
  | faulty stage countdown, call => faulty stage (if stage = call then countdown - 1 else countdown)

end Surface

namespace Chart

/-- Makes the calls of a drawing. -/
def perform {α : Type} (surface : Surface) : Drawing α → Except ChartError Unit × Surface
  | [] => (.ok (), surface)
  | call :: calls =>
    match call.stage? with
    | none => perform surface calls
    | some stage =>
      if surface.fails stage then (.error (stage.error ("injected failure at " ++ stage.name)), surface.after stage)
      else perform (surface.after stage) calls

/-- What drawing leaves behind: the files and the surface, and the path of the chart unless it failed. -/
structure Drawn where
  files : FileSystem
  surface : Surface
  result : Except ChartError Path

/-- Makes the calls of a drawing and writes the file. -/
def draw (files : FileSystem) (surface : Surface) (path : Path) (drawing : Drawing Float) : Drawn :=
  match perform surface drawing with
  | (.error e, surface) => ⟨files, surface, .error e⟩
  | (.ok (), surface) =>
    match files.write path (.chart drawing) with
    | .error _ => ⟨files, surface, .error (.drawing "cannot write chart file")⟩
    | .ok files => ⟨files, surface, .ok path⟩

/-- Draws a chart if there is one to draw. -/
def drawIfAny (files : FileSystem) (surface : Surface) (path : Path) (chart : Except ChartError (Drawing Float)) :
    Drawn :=
  match chart with
  | .error e => ⟨files, surface, .error e⟩
  | .ok drawing => draw files surface path drawing

/-- Draws the chart of an algorithm into a directory. -/
def drawHistogram (files : FileSystem) (surface : Surface) (d : Descriptor) (h : Histogram) (options : Options)
    (dir : Path) : Drawn :=
  drawIfAny files surface (dir.join ⟨fileName d.algorithm⟩) (ofHistogram d h options)

/-- Draws the chart that compares algorithms into a directory. -/
def drawOverlay (files : FileSystem) (surface : Surface) (series : List Series) (options : Options) (dir : Path) :
    Drawn :=
  drawIfAny files surface (dir.join ⟨overlayFileName⟩) (ofSeries series options)

end Chart

end Occupancy
