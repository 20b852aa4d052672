import Occupancy.CommandLine.Help
import Occupancy.Run

/-! The program: it reads its command line, runs and ends with a status. A run is announced by four lines; its last
message goes to standard output if it succeeded and to standard error if not. -/

namespace Occupancy.Program

/-- What the program leaves behind when it ends. -/
structure Exit where
  status : Nat
  stdout : String
  stderr : String
  files : FileSystem

/-- The lines before the output of a run. -/
def announcement (settings : Settings) : List String :=
  ["Starting occupancy analysis:",
   s!"Results directory: {settings.resultsDir.text}",
   "Max k: " ++ (match settings.maxK with
     | none => "largest observed"
     | some maxK => toString maxK),
   "Y-axis: " ++ (match settings.chart.scale with
     | .linear => "linear"
     | .logarithmic => "logarithmic")]

def linesText (lines : List String) : String := String.join (lines.map (· ++ "\n"))

/-- A run is announced with the results that it is over, its cap and the kind of its vertical axis. -/
theorem linesText_announcement (settings : Settings) :
    linesText (announcement settings) =
      "Starting occupancy analysis:\n"
        ++ ("Results directory: " ++ settings.resultsDir.text ++ "\n")
        ++ ("Max k: " ++ settings.maxK.elim "largest observed" toString ++ "\n")
        ++ ("Y-axis: " ++ (if settings.chart.scale = .logarithmic then "logarithmic" else "linear") ++ "\n") := by
  rw [linesText, announcement]
  simp only [List.map_cons, List.map_nil, String.join_cons, String.join_nil, String.append_empty, String.append_assoc]
  cases settings.maxK <;> cases settings.chart.scale <;> rfl

/-- Runs with the given settings, on a sound surface. -/
def runWith (settings : Settings) (files : FileSystem) : Exit :=
  let outcome := Run.run settings files .sound
  let printed := linesText (announcement settings) ++ consoleText outcome.console
  let (message, status) := Run.verdict outcome.result
  if status = 0 then ⟨status, printed ++ message ++ "\n", "", outcome.files⟩
  else ⟨status, printed, message ++ "\n", outcome.files⟩

/-- What is printed about a command line that is not understood. -/
def usageText (e : CommandLine.UsageError) : String :=
  s!"{e.message}\nRun {CommandLine.programName} --help for more information.\n"

def execute (arguments : List String) (files : FileSystem) : Exit :=
  match CommandLine.parse arguments with
  | .error e => ⟨1, "", usageText e, files⟩
  | .ok .help => ⟨0, CommandLine.helpText ++ "\n", "", files⟩
  | .ok (.run settings) => runWith settings files

end Occupancy.Program
