import Occupancy.Program

/-! The executable. It takes a picture of the files that a run looks at, executes the program on the picture and
writes the charts that came out of it. The names of the entries of the results directory are read from standard
input, one on a line. -/

namespace Occupancy

/-- What is at a path on disk. -/
def entryAt (path : Path) : IO (Option Entry) := do
  match ← (IO.FS.readBinFile path.text).toBaseIO with
  | .ok bytes => return some (.file (.bytes bytes.toList))
  | .error (.inappropriateType ..) => return some .directory
  | .error _ => return none

/-- The picture with what is at a path on disk, and with the directories on the way to it. -/
def photograph (files : FileSystem) (path : Path) : IO FileSystem := do
  match ← entryAt path with
  | some .directory => return (files.makePath path).toOption.getD files
  | some (.file content) =>
    let files := (files.makePath (path.parent?.getD ⟨""⟩)).toOption.getD files
    return (files.write path content).toOption.getD files
  | _ => return files

/-- The picture with a descriptor and the counts that it names. -/
def photographDescriptor (files : FileSystem) (path : Path) : IO FileSystem := do
  let files ← photograph files path
  match Loading.loadDescriptor files path with
  | .ok d => photograph files (Loading.countsPath path d)
  | .error _ => return files

/-- The lines of standard input, without their breaks. -/
def inputLines : IO (List String) := do
  let text ← (← IO.getStdin).readToEnd
  return (text.toList.splitOn '\n').map String.ofList |>.filter (!·.isEmpty)

/-- Everything that a run with the given settings looks at. -/
def photographAll (settings : Settings) : IO FileSystem := do
  let files ← photograph ⟨[], []⟩ settings.resultsDir
  let files ← photograph files settings.plotsDir
  let names ← inputLines
  (names.filter Run.isDescriptorName).foldlM
    (fun files name => photographDescriptor files (settings.resultsDir.join ⟨name⟩)) files

/-- Writes the charts that are in the picture. -/
def writeCharts (plotsDir : Path) (files : FileSystem) : IO Unit :=
  files.entries.forM fun (location, entry) =>
    match location, entry with
    | name :: _, .file (.chart drawing) => do
      IO.FS.createDirAll plotsDir.text
      IO.FS.writeFile (plotsDir.join ⟨name⟩).text (Chart.record drawing).text
    | _, _ => pure ()

end Occupancy

open Occupancy in
def main (arguments : List String) : IO UInt32 := do
  let settings? :=
    match CommandLine.parse arguments with
    | .ok (.run settings) => some settings
    | _ => none
  let files ← settings?.elim (pure ⟨[], []⟩) photographAll
  let exit := Program.execute arguments files
  settings?.forM fun settings => writeCharts settings.plotsDir exit.files
  IO.print exit.stdout
  IO.eprint exit.stderr
  return UInt32.ofNat exit.status
