import Occupancy.Program
import Occupancy.Proofs.Run.Agreement
import Occupancy.Proofs.Run.Script

/-! What the status of the program certifies. The program ends with status zero exactly when the results are in order and
there is room for all charts, and then its last line names the directory of the charts; otherwise it says on standard error
why the run failed. -/

namespace Occupancy.Program

open FileSystem Run

variable {settings : Settings} {files made : FileSystem} {r : Location} {path : Path} {paths : List Path} {name : String}
  {arguments : List String}

/-! ### Results that are in order -/

/-- A file directly in the directory at `r` that has the name of a descriptor. -/
def HasDescriptor (files : FileSystem) (r : Location) (name : String) : Prop :=
  isDescriptorName name = true ∧ ∃ content, files.lookup (name :: r) = some (.file content)

/-- The results at `r` are in order, and the files `made` have room for their charts. -/
structure Ready (settings : Settings) (files : FileSystem) (r : Location) (made : FileSystem) : Prop where
  directory : files.resolve true settings.resultsDir = .ok (.occupied r .directory)
  inhabited : ∃ name, HasDescriptor files r name
  plots : files.ensureDirectory settings.plotsDir = .ok made
  valid : ∀ name, HasDescriptor files r name →
    ∃ d, Loading.Valid files (settings.resultsDir.join ⟨name⟩) d ∧ made.CanWrite (chartPath settings d)
  overlay : settings.overlay = true → made.CanWrite (overlayPath settings)

theorem hasDescriptor_iff (hworld : files.IsWorld) :
    HasDescriptor files r name ↔ name ∈ descriptorNames (files.children r) := by
  rw [HasDescriptor, mem_descriptorNames]
  simp only [hworld.mem_children_iff, exists_and_right]
  exact and_comm

/-- The descriptors that are found are those that are there. -/
theorem mem_paths_iff (hworld : files.IsWorld)
    (hdir : files.resolve true settings.resultsDir = .ok (.occupied r .directory))
    (hpaths : discover files settings.resultsDir = .ok paths) :
    path ∈ paths ↔ ∃ name, HasDescriptor files r name ∧ settings.resultsDir.join ⟨name⟩ = path := by
  obtain ⟨_, hsame, -, rfl⟩ := discover_eq_ok_iff.mp hpaths
  rw [hdir] at hsame
  cases hsame
  simp only [List.mem_map, hasDescriptor_iff hworld]

/-- What is opened as a descriptor is a file. -/
theorem exists_file_of_loadDescriptor (hworld : files.IsWorld)
    (hdir : files.resolve true settings.resultsDir = .ok (.occupied r .directory)) (hname : HasDescriptor files r name)
    {d : Descriptor} (hload : Loading.loadDescriptor files (settings.resultsDir.join ⟨name⟩) = .ok d) :
    ∃ content, files.openEntry (settings.resultsDir.join ⟨name⟩) = .ok (.file content) := by
  obtain ⟨-, content, hlookup⟩ := hname
  have hisName := hworld.names _ (mem_entries_of_lookup hlookup) name List.mem_cons_self
  have hresolve := resolve_join hdir hisName (ne_link_of_file hlookup) true
  refine ⟨content, ?_⟩
  by_cases hfits : Fits settings.resultsDir name
  · rw [openEntry, hresolve, if_pos hfits, placeAt, hlookup]
  · rw [Loading.loadDescriptor, openEntry, hresolve, if_neg hfits] at hload
    cases hload

/-- A run that succeeds had results in order, none of which was passed over. -/
theorem Ready.of_script {console : List ConsoleLine} {done : List Finished} {extra : List (String × Content)} {dir : Path}
    (hworld : files.IsWorld) (hdir : files.resolve true settings.resultsDir = .ok (.occupied r .directory))
    (hpaths : discover files settings.resultsDir = .ok paths)
    (hmade : files.ensureDirectory settings.plotsDir = .ok made)
    (h : Script settings files made paths console done extra (.ok dir)) : Ready settings files r made := by
  obtain ⟨hdone, -, hroom⟩ := h.of_ok
  refine ⟨hdir, ?_, hmade, ?_, hroom⟩
  · obtain ⟨path, hpath⟩ := List.exists_mem_of_ne_nil paths (ne_nil_of_discover hpaths)
    obtain ⟨name, hname, -⟩ := (mem_paths_iff hworld hdir hpaths).mp hpath
    exact ⟨name, hname⟩
  · intro name hname
    have hpath := (mem_paths_iff hworld hdir hpaths).mpr ⟨name, hname, rfl⟩
    obtain ⟨f, hchartable⟩ := hdone.exists_of_mem hpath
    obtain ⟨content, hopen⟩ :=
      exists_file_of_loadDescriptor hworld hdir hname (loadDescriptor_of_analyze hchartable.report)
    exact ⟨_, valid_of_analyze hopen hchartable.report, hchartable.room⟩

theorem Ready.exists_report (h : Ready settings files r made) (hworld : files.IsWorld)
    (hpaths : discover files settings.resultsDir = .ok paths) (hpath : path ∈ paths) :
    ∃ report, analyze files path settings.maxK = .ok report ∧
      made.CanWrite (chartPath settings report.descriptor) := by
  obtain ⟨name, hname, rfl⟩ := (mem_paths_iff hworld h.directory hpaths).mp hpath
  obtain ⟨d, hvalid, hroom⟩ := h.valid name hname
  obtain ⟨report, hreport, rfl⟩ := analyze_of_valid hvalid settings.maxK
  exact ⟨report, hreport, hroom⟩

/-- Nothing stops a run over results that are in order. -/
theorem Ready.result_eq {console : List ConsoleLine} {done : List Finished} {extra : List (String × Content)}
    {result : Except RunError Path} (h : Ready settings files r made) (hworld : files.IsWorld)
    (hpaths : discover files settings.resultsDir = .ok paths)
    (hscript : Script settings files made paths console done extra result) : result = .ok settings.plotsDir := by
  cases hscript with
  | unread hsplit _ herror =>
      obtain ⟨report, hreport, -⟩ := h.exists_report hworld hpaths (hsplit ▸ List.mem_append_right _ List.mem_cons_self)
      rw [hreport] at herror
      cases herror
  | unwritten hsplit _ hfound hfull =>
      obtain ⟨report, hreport, hroom⟩ :=
        h.exists_report hworld hpaths (hsplit ▸ List.mem_append_right _ List.mem_cons_self)
      rw [hreport] at hfound
      cases hfound
      exact absurd hroom hfull
  | overlayUnwritten _ hwanted hfull => exact absurd (h.overlay hwanted) hfull
  | finished => rfl

theorem Ready.exists_discover (h : Ready settings files r made) (hworld : files.IsWorld) :
    ∃ paths, discover files settings.resultsDir = .ok paths := by
  obtain ⟨name, hname⟩ := h.inhabited
  refine ⟨_, discover_eq_ok_iff.mpr ⟨r, h.directory, ?_, rfl⟩⟩
  exact List.ne_nil_of_mem ((hasDescriptor_iff hworld).mp hname)

/-- A run over secluded results succeeds if and only if they are in order and there is room for all charts. -/
theorem result_ok_iff_ready (h : Secluded settings files) :
    (run settings files .sound).result = .ok settings.plotsDir ↔ ∃ r made, Ready settings files r made := by
  constructor
  · intro hok
    rcases halted_or_prepared settings files with ⟨e, hhalted⟩ | ⟨paths, made, hpaths, hmade⟩
    · rw [hhalted.run_eq] at hok
      cases hok
    obtain ⟨r, hdir⟩ := resolve_of_discover hpaths
    obtain ⟨hgrown, -⟩ := h.grown hdir hpaths hmade.ensured
    obtain ⟨console, done, extra, result, hscript⟩ := exists_script settings files made (ne_nil_of_discover hpaths)
    obtain ⟨final, -, -, hrun⟩ := hscript.run_eq h hdir hpaths hgrown hpaths hmade
    rw [hrun] at hok
    cases hok
    exact ⟨r, made, .of_script h.world hdir hpaths hmade.ensured hscript⟩
  · rintro ⟨r, made, hready⟩
    obtain ⟨paths, hpaths⟩ := hready.exists_discover h.world
    obtain ⟨hgrown, -⟩ := h.grown hready.directory hpaths hready.plots
    obtain ⟨console, done, extra, result, hscript⟩ := exists_script settings files made (ne_nil_of_discover hpaths)
    obtain ⟨final, -, -, hrun⟩ :=
      hscript.run_eq h hready.directory hpaths hgrown hpaths (prepared_of_ok hready.plots)
    rw [hrun]
    exact hready.result_eq h.world hpaths hscript

/-! ### The status -/

theorem result_eq_plotsDir {surface : Surface} {dir : Path} (h : (run settings files surface).result = .ok dir) :
    dir = settings.plotsDir := by
  obtain ⟨o, stdout, hcourse⟩ := exists_course settings files surface
  rw [hcourse.run_eq] at h
  cases hcourse with
  | undiscovered => cases h
  | unprepared => cases h
  | stopped => cases h
  | overlayFailed => cases h
  | finished => cases h; rfl
  | overlaid => cases h; rfl

theorem runWith_of_ok {dir : Path} (h : (run settings files .sound).result = .ok dir) :
    runWith settings files =
      ⟨0, linesText (announcement settings) ++ consoleText (run settings files .sound).console ++
        ("✅ Plots written to " ++ dir.text) ++ "\n", "", (run settings files .sound).files⟩ := by
  rw [runWith]
  generalize run settings files .sound = o at h ⊢
  rw [h]
  rfl

theorem runWith_of_error {e : RunError} (h : (run settings files .sound).result = .error e) :
    runWith settings files =
      ⟨1, linesText (announcement settings) ++ consoleText (run settings files .sound).console,
        "Error: " ++ e.message ++ "\n", (run settings files .sound).files⟩ := by
  rw [runWith]
  generalize run settings files .sound = o at h ⊢
  rw [h]
  rfl

/-- **The status certifies the results.** For a command line that asks for a run over secluded results, the program ends
with status zero if and only if the results are in order and there is room for all charts. Then nothing is printed on
standard error, and the last line of the output names the directory of the charts; otherwise the status is one, the error
of the run is all that is printed on standard error, and the output ends with that of the run. In both cases it begins with
four lines that announce the run. -/
theorem execute_status (hparse : CommandLine.parse arguments = .ok (.run settings)) (h : Secluded settings files) :
    let o := run settings files .sound
    let exit := execute arguments files
    let header := "Starting occupancy analysis:\n"
      ++ ("Results directory: " ++ settings.resultsDir.text ++ "\n")
      ++ ("Max k: " ++ settings.maxK.elim "largest observed" toString ++ "\n")
      ++ ("Y-axis: " ++ (if settings.chart.scale = .logarithmic then "logarithmic" else "linear") ++ "\n")
    let printed := header ++ consoleText o.console
    (exit.status = 0 ↔ ∃ r made, Ready settings files r made) ∧
    (exit.status = 0 →
      exit.stdout = printed ++ ("✅ Plots written to " ++ settings.plotsDir.text) ++ "\n" ∧ exit.stderr = "") ∧
    (exit.status ≠ 0 → ∃ e, o.result = .error e ∧ exit.status = 1 ∧ exit.stdout = printed ∧
      exit.stderr = "Error: " ++ e.message ++ "\n") := by
  intro o exit header printed
  have hprinted : linesText (announcement settings) ++ consoleText o.console = printed :=
    congrArg (· ++ consoleText o.console) (linesText_announcement settings)
  have hready := result_ok_iff_ready h
  have hexit : exit = runWith settings files := by
    show execute arguments files = _
    rw [execute, hparse]
  cases hresult : o.result with
  | ok dir =>
      cases result_eq_plotsDir hresult
      rw [hexit, runWith_of_ok hresult, hprinted]
      exact ⟨iff_of_true rfl (hready.mp hresult), fun _ => ⟨rfl, rfl⟩, fun hne => absurd rfl hne⟩
  | error e =>
      have hunready : ¬∃ r made, Ready settings files r made := by
        intro hexists
        rw [hready.mpr hexists] at hresult
        cases hresult
      rw [hexit, runWith_of_error hresult, hprinted]
      exact ⟨iff_of_false Nat.one_ne_zero hunready, fun hzero => absurd hzero Nat.one_ne_zero,
        fun _ => ⟨e, rfl, rfl, rfl, rfl⟩⟩

theorem parse_quiet : CommandLine.parse ["r", "--quiet"] = .ok (.run namesakeSettings) := rfl

/-- The results of two algorithms that share a file name are in order. -/
theorem execute_status_namesakes : ∃ r made, Ready namesakeSettings namesakes r made := by
  obtain ⟨hstatus, -⟩ := execute_status parse_quiet apart_namesakes.secluded
  obtain ⟨dir, hok⟩ := exists_ok_namesakes
  apply hstatus.mp
  rw [execute, parse_quiet]
  exact congrArg Exit.status (runWith_of_ok hok)

end Occupancy.Program
