import Occupancy.CommandLine

/-! The help text: a line that shows how the program is called, what it is for, and a list of its arguments with
their descriptions, broken between words. -/

namespace Occupancy.CommandLine

def programName : String := "hash-occupancy-plots"

/-- The column in which descriptions start. -/
def descriptionColumn : Nat := 20

/-- The most characters of a line with a description. -/
def lineLimit : Nat := 80

def blanks (n : Nat) : String := String.ofList (List.replicate n ' ')

/-- Appends words to a line; those that no longer fit go to further lines, each indented to the description. -/
def wrap (line : String) : List String → List String
  | [] => [line]
  | word :: words =>
    if lineLimit < line.length + word.length + 1 then line :: wrap (blanks descriptionColumn ++ word) words
    else wrap (line ++ " " ++ word) words

/-- The lines of a name with its description. -/
def entryLines (name description : String) : List String :=
  match (description.toList.splitOn ' ').map String.ofList with
  | [] => ["  " ++ name]
  | first :: words =>
    let line := "  " ++ name
    wrap (line ++ blanks (descriptionColumn - line.length) ++ first) words

namespace Flag

def usage : Flag → String
  | maxK => "[--max-k <max-k>]"
  | switch s => s!"[{(switch s).names.2.getD (switch s).names.1}]"

/-- Both names, the short one first. -/
def label (flag : Flag) : String :=
  match flag.names with
  | (long, none) => long
  | (long, some short) => short ++ ", " ++ long

def description : Flag → String
  | maxK => "highest occupancy level (k) to display (default: largest observed)"
  | switch .overlay => "also write a combined chart comparing all algorithms"
  | switch .logarithmic => "use a logarithmic y-axis"
  | switch .noPoisson => "do not draw the Poisson expectation on per-algorithm charts"
  | switch .noNormalize => "plot raw bucket counts instead of fractions on the overlay chart"
  | switch .quiet => "do not print per-algorithm occupancy tables"

end Flag

def usageLine : String :=
  "Usage: " ++ " ".intercalate (programName :: Flag.all.map Flag.usage ++ ["[--]", "<results_dir>"])

def helpLines : List String :=
  [usageLine,
   "",
   "Plot bucket occupancy histograms of hash quality test output against the Poisson expectation",
   "",
   "Positional Arguments:"]
  ++ entryLines "results_dir" "directory holding the <ALG>.meta.json and counts file pairs"
  ++ ["", "Options:"]
  ++ Flag.all.flatMap (fun flag => entryLines flag.label flag.description)
  ++ entryLines "--help, help" "display usage information"

def helpText : String := String.join (helpLines.map (· ++ "\n"))

end Occupancy.CommandLine
