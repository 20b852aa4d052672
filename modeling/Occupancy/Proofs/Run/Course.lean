import Occupancy.Proofs.Chart.Surface
import Occupancy.Proofs.Console
import Occupancy.Proofs.FileSystem.Writing
import Occupancy.Run

/-! The course of a run. The descriptors are handled one by one, each in the state that the earlier ones have left,
and the first failure ends the run: the charts of the algorithms before it stay, and so do the complete blocks that
were printed for them. An algorithm that fails writes nothing; its report has been printed only if it was the chart
that failed. -/

namespace Occupancy.Run

variable {settings : Settings} {files made left : FileSystem} {surface later : Surface} {path : Path} {stdout : String}

/-- Where the chart of an algorithm is written. -/
def chartPath (settings : Settings) (d : Descriptor) : Path :=
  settings.plotsDir.join ⟨Chart.fileName d.algorithm⟩

def overlayPath (settings : Settings) : Path := settings.plotsDir.join ⟨Chart.overlayFileName⟩

/-- An algorithm that a run is done with: its report, and the chart that was drawn of it. -/
structure Finished where
  report : Report
  drawing : Drawing Float

/-- What is printed for an algorithm that is finished. -/
def block (settings : Settings) (report : Report) : List ConsoleLine :=
  report.lines settings.quiet ++ [.wroteChart (chartPath settings report.descriptor)]

def blocks (settings : Settings) (done : List Finished) : List ConsoleLine :=
  done.flatMap fun f => block settings f.report

/-- The complete block of an algorithm as text: its report, and behind it the path of its chart. -/
def blockText (settings : Settings) (report : Report) : String :=
  report.text settings.quiet ++ (s!"   🖼️  Wrote {(chartPath settings report.descriptor).text}" ++ "\n")

def blocksText (settings : Settings) (done : List Finished) : String :=
  String.join (done.map fun f => blockText settings f.report)

/-- The charts of finished algorithms, each with the name of its file. -/
def chartWrites (done : List Finished) : List (String × Content) :=
  done.map fun f => (Chart.fileName f.report.descriptor.algorithm, .chart f.drawing)

/-- Handling one descriptor to the end: the algorithm is analyzed and its chart is drawn. -/
structure Finishes (settings : Settings) (files : FileSystem) (surface : Surface) (path : Path) (f : Finished)
    (left : FileSystem) (later : Surface) : Prop where
  report : analyze files path settings.maxK = .ok f.report
  drawn : Chart.Draws files surface (chartPath settings f.report.descriptor)
    (Chart.ofHistogram f.report.descriptor f.report.histogram settings.chart) f.drawing left later

/-- Handling descriptors one after the other, each to the end and in the state that the one before it left. -/
inductive Handled (settings : Settings) :
    FileSystem → Surface → List Path → List Finished → FileSystem → Surface → Prop
  | none {files : FileSystem} {surface : Surface} : Handled settings files surface [] [] files surface
  | next {files between left : FileSystem} {surface next later : Surface} {path : Path} {paths : List Path}
      {f : Finished} {done : List Finished} (hfirst : Finishes settings files surface path f between next)
      (hrest : Handled settings between next paths done left later) :
      Handled settings files surface (path :: paths) (f :: done) left later

/-- How handling a descriptor fails, with what has been printed for it, also as text, the error, and the surface
afterwards. -/
inductive Fails (settings : Settings) (files : FileSystem) (surface : Surface) (path : Path) :
    List ConsoleLine → String → RunError → Surface → Prop
  | loading {e : RunError} (herror : analyze files path settings.maxK = .error e) :
      Fails settings files surface path [] "" e surface
  | charting {report : Report} {e : ChartError} {last : Surface}
      (hreport : analyze files path settings.maxK = .ok report)
      (herror : Chart.drawHistogram files surface report.descriptor report.histogram settings.chart
        settings.plotsDir = ⟨files, last, .error e⟩) :
      Fails settings files surface path (report.lines settings.quiet) (report.text settings.quiet) (.charting e) last

/-- The files once the directory of the charts is there; at most its own entry is new. -/
structure Prepared (settings : Settings) (files made : FileSystem) : Prop where
  ensured : files.ensureDirectory settings.plotsDir = .ok made
  present : made.isDirectory settings.plotsDir = true
  change : made = files ∨ ∃ l, files.lookup l = none ∧ made = files.insert l .directory

/-- Every course that a run can take, with the text on standard output. -/
inductive Course (settings : Settings) (files : FileSystem) (surface : Surface) : Outcome Path → String → Prop
  | undiscovered {e : RunError} (herror : discover files settings.resultsDir = .error e) :
      Course settings files surface ⟨files, [], surface, .error e⟩ ""
  | unprepared {paths : List Path} {e : IoError} (hpaths : discover files settings.resultsDir = .ok paths)
      (herror : files.ensureDirectory settings.plotsDir = .error e) :
      Course settings files surface ⟨files, [], surface, .error (.inaccessible e)⟩ ""
  | stopped {before after : List Path} {path : Path} {made left : FileSystem} {done : List Finished}
      {later last : Surface} {printed : List ConsoleLine} {text : String} {e : RunError}
      (hpaths : discover files settings.resultsDir = .ok (before ++ path :: after))
      (hmade : Prepared settings files made) (hbefore : Handled settings made surface before done left later)
      (hfails : Fails settings left later path printed text e last) :
      Course settings files surface ⟨left, blocks settings done ++ printed, last, .error e⟩
        (blocksText settings done ++ text)
  | overlayFailed {paths : List Path} {made left : FileSystem} {done : List Finished} {later last : Surface}
      {e : ChartError} (hpaths : discover files settings.resultsDir = .ok paths)
      (hmade : Prepared settings files made) (hdone : Handled settings made surface paths done left later)
      (hwanted : settings.overlay = true)
      (herror : Chart.drawOverlay left later (overlaySeries (done.map Finished.report)) settings.chart
        settings.plotsDir = ⟨left, last, .error e⟩) :
      Course settings files surface ⟨left, blocks settings done, last, .error (.charting e)⟩ (blocksText settings done)
  | finished {paths : List Path} {made left : FileSystem} {done : List Finished} {later : Surface}
      (hpaths : discover files settings.resultsDir = .ok paths) (hmade : Prepared settings files made)
      (hdone : Handled settings made surface paths done left later) (hunwanted : settings.overlay = false) :
      Course settings files surface ⟨left, blocks settings done, later, .ok settings.plotsDir⟩ (blocksText settings done)
  | overlaid {paths : List Path} {made left final : FileSystem} {done : List Finished} {later last : Surface}
      {drawing : Drawing Float} (hpaths : discover files settings.resultsDir = .ok paths)
      (hmade : Prepared settings files made) (hdone : Handled settings made surface paths done left later)
      (hwanted : settings.overlay = true)
      (hdraws : Chart.Draws left later (overlayPath settings)
        (Chart.ofSeries (overlaySeries (done.map Finished.report)) settings.chart) drawing final last) :
      Course settings files surface
        ⟨final, blocks settings done ++ [.wroteOverlay (overlayPath settings)], last, .ok settings.plotsDir⟩
        (blocksText settings done ++ (s!"🖼️  Wrote {(overlayPath settings).text}" ++ "\n"))

/-! ### One descriptor -/

theorem Finishes.reportOne_eq {f : Finished} (h : Finishes settings files surface path f left later) :
    reportOne settings files surface path = ⟨left, block settings f.report, later, .ok f.report⟩ := by
  have hdrawn := h.drawn.drawIfAny_eq
  rw [reportOne, h.report]
  simp only [Chart.drawHistogram]
  rw [← chartPath, hdrawn]
  rfl

theorem Fails.reportOne_eq {printed : List ConsoleLine} {text : String} {e : RunError} {last : Surface}
    (h : Fails settings files surface path printed text e last) :
    reportOne settings files surface path = ⟨files, printed, last, .error e⟩ := by
  cases h with
  | loading herror => rw [reportOne, herror]
  | charting hreport herror =>
      rw [reportOne, hreport]
      simp only [herror]
      rfl

theorem finishes_or_fails (settings : Settings) (files : FileSystem) (surface : Surface) (path : Path) :
    (∃ f left later, Finishes settings files surface path f left later) ∨
      ∃ printed text e last, Fails settings files surface path printed text e last := by
  cases hreport : analyze files path settings.maxK with
  | error e => exact Or.inr ⟨[], "", e, surface, .loading hreport⟩
  | ok report =>
      rcases Chart.draws_or_fails files surface (chartPath settings report.descriptor)
          (Chart.ofHistogram report.descriptor report.histogram settings.chart) with
        ⟨drawing, left, later, hdraws⟩ | ⟨e, last, herror⟩
      · exact Or.inl ⟨⟨report, drawing⟩, left, later, hreport, hdraws⟩
      · exact Or.inr ⟨_, _, _, last, .charting hreport herror⟩

/-! ### All descriptors -/

/-- Behind descriptors that are handled to the end, the rest of the run goes on from the state that they left. -/
theorem Handled.reportAll_append {before : List Path} {done : List Finished}
    (h : Handled settings files surface before done left later) (after : List Path) :
    reportAll settings files surface (before ++ after) =
      let rest := reportAll settings left later after
      ⟨rest.files, blocks settings done ++ rest.console, rest.surface,
        rest.result.map (done.map Finished.report ++ ·)⟩ := by
  induction h with
  | none =>
      rw [List.nil_append]
      simp only [blocks, List.flatMap_nil, List.map_nil, List.nil_append]
      cases hresult : (reportAll settings _ _ after).result with
      | error e => rw [Except.map, ← hresult]
      | ok reports => rw [Except.map, ← hresult]
  | next hfirst _ ih =>
      rw [List.cons_append, reportAll, hfirst.reportOne_eq]
      simp only [Outcome.andThen, Outcome.map, ih, blocks, List.flatMap_cons, List.append_assoc]
      cases (reportAll settings _ _ after).result with
      | error e => rfl
      | ok reports => rfl

/-- The files that are left are those at the start with the charts written to them in order, and nothing else. -/
theorem Handled.writeAll {paths : List Path} {done : List Finished}
    (h : Handled settings files surface paths done left later) :
    files.writeAll settings.plotsDir (chartWrites done) = .ok left := by
  induction h with
  | none => rfl
  | next hfirst _ ih =>
      rw [chartWrites, List.map_cons, FileSystem.writeAll_cons_of_ok hfirst.drawn.wrote]
      exact ih

theorem Handled.reportAll_eq {paths : List Path} {done : List Finished}
    (h : Handled settings files surface paths done left later) :
    reportAll settings files surface paths =
      ⟨left, blocks settings done, later, .ok (done.map Finished.report)⟩ := by
  have happend := h.reportAll_append []
  rw [List.append_nil] at happend
  rw [happend]
  simp only [reportAll, Except.map, List.append_nil]

theorem Fails.reportAll_cons {printed : List ConsoleLine} {text : String} {e : RunError} {last : Surface}
    (h : Fails settings files surface path printed text e last) (after : List Path) :
    reportAll settings files surface (path :: after) = ⟨files, printed, last, .error e⟩ := by
  rw [reportAll, h.reportOne_eq]
  rfl

/-- All descriptors are handled to the end, or there is a first one that fails. -/
theorem handled_or_fails (settings : Settings) (files : FileSystem) (surface : Surface) (paths : List Path) :
    (∃ done left later, Handled settings files surface paths done left later) ∨
      ∃ before path after done left later printed text e last, paths = before ++ path :: after ∧
        Handled settings files surface before done left later ∧ Fails settings left later path printed text e last := by
  induction paths generalizing files surface with
  | nil => exact Or.inl ⟨[], files, surface, .none⟩
  | cons path paths ih =>
      rcases finishes_or_fails settings files surface path with
        ⟨f, between, next, hfirst⟩ | ⟨printed, text, e, last, hfails⟩
      -- the rest is handled in the state that the first descriptor left
      · rcases ih between next with ⟨done, left, later, hdone⟩ |
          ⟨before, failed, after, done, left, later, printed, text, e, last, rfl, hbefore, hfails⟩
        · exact Or.inl ⟨f :: done, left, later, .next hfirst hdone⟩
        · exact Or.inr ⟨path :: before, failed, after, f :: done, left, later, printed, text, e, last, rfl,
            .next hfirst hbefore, hfails⟩
      · exact Or.inr ⟨[], path, paths, [], files, surface, printed, text, e, last, rfl, .none, hfails⟩

/-- Where there is a report on every descriptor, all of them have been handled to the end. -/
theorem handled_of_ok {paths : List Path} {reports : List Report}
    (h : (reportAll settings files surface paths).result = .ok reports) :
    ∃ done, done.map Finished.report = reports ∧
      Handled settings files surface paths done (reportAll settings files surface paths).files
        (reportAll settings files surface paths).surface := by
  rcases handled_or_fails settings files surface paths with
    ⟨done, left, later, hdone⟩ | ⟨before, path, after, done, left, later, printed, text, e, last, rfl, hbefore, hfails⟩
  · rw [hdone.reportAll_eq] at h ⊢
    cases h
    exact ⟨done, rfl, hdone⟩
  · rw [hbefore.reportAll_append, hfails.reportAll_cons] at h
    cases h

/-! ### The whole run -/

theorem plotsDir_endsInSegment (settings : Settings) : settings.plotsDir.EndsInSegment :=
  Path.endsInSegment_join _ ⟨by decide, by decide, by decide, by decide, by decide⟩

theorem prepared_of_ok (h : files.ensureDirectory settings.plotsDir = .ok made) : Prepared settings files made := by
  obtain ⟨l, hpresent, hchange⟩ := FileSystem.ensureDirectory_of_ok (plotsDir_endsInSegment settings) h
  refine ⟨h, FileSystem.isDirectory_iff.mpr ⟨l, hpresent⟩, ?_⟩
  rcases hchange with hsame | ⟨hfree, hinsert⟩
  · exact Or.inl hsame
  · exact Or.inr ⟨l, hfree, hinsert⟩

theorem Prepared.run_eq {paths : List Path} (hpaths : discover files settings.resultsDir = .ok paths)
    (hmade : Prepared settings files made) :
    run settings files surface = chartAll settings made surface paths := by
  rw [run, hpaths]
  simp only [hmade.ensured]

/-- A course says what the run leaves behind. -/
theorem Course.run_eq {o : Outcome Path} (h : Course settings files surface o stdout) :
    run settings files surface = o := by
  cases h with
  | undiscovered herror => rw [run, herror]
  | unprepared hpaths herror =>
      rw [run, hpaths]
      simp only [herror]
  | stopped hpaths hmade hbefore hfails =>
      rw [hmade.run_eq hpaths, chartAll, hbefore.reportAll_append, hfails.reportAll_cons]
      rfl
  | overlayFailed hpaths hmade hdone hwanted herror =>
      rw [hmade.run_eq hpaths, chartAll, hdone.reportAll_eq]
      simp only [Outcome.andThen, overlay, hwanted, if_true, herror, charted, Outcome.map, Except.map,
        List.append_nil]
  | finished hpaths hmade hdone hunwanted =>
      rw [hmade.run_eq hpaths, chartAll, hdone.reportAll_eq]
      simp only [Outcome.andThen, overlay, hunwanted, Bool.false_eq_true, if_false, Outcome.map, Except.map,
        List.append_nil]
  | overlaid hpaths hmade hdone hwanted hdraws =>
      rw [hmade.run_eq hpaths, chartAll, hdone.reportAll_eq]
      have hdrawn := hdraws.drawIfAny_eq
      simp only [Outcome.andThen, overlay, hwanted, if_true, Chart.drawOverlay]
      rw [← overlayPath, hdrawn]
      rfl

/-! ### The text of a run -/

theorem consoleText_block (settings : Settings) (report : Report) :
    consoleText (block settings report) = blockText settings report := by
  rw [block, consoleText_append, consoleText_lines, consoleText_singleton]
  rfl

theorem consoleText_blocks (settings : Settings) (done : List Finished) :
    consoleText (blocks settings done) = blocksText settings done := by
  rw [blocks, consoleText_flatMap, blocksText]
  exact congrArg String.join (List.map_congr_left fun f _ => consoleText_block settings f.report)

theorem Fails.consoleText_eq {printed : List ConsoleLine} {text : String} {e : RunError} {last : Surface}
    (h : Fails settings files surface path printed text e last) : consoleText printed = text := by
  cases h with
  | loading => rfl
  | charting => exact consoleText_lines _ _

/-- A course says what is on standard output. -/
theorem Course.consoleText_eq {o : Outcome Path} (h : Course settings files surface o stdout) :
    consoleText o.console = stdout := by
  cases h with
  | undiscovered => rfl
  | unprepared => rfl
  | stopped _ _ _ hfails => rw [consoleText_append, consoleText_blocks, hfails.consoleText_eq]
  | overlayFailed => exact consoleText_blocks _ _
  | finished => exact consoleText_blocks _ _
  | overlaid =>
      rw [consoleText_append, consoleText_blocks, consoleText_singleton]
      rfl

/-! ### The law -/

theorem exists_course (settings : Settings) (files : FileSystem) (surface : Surface) :
    ∃ o stdout, Course settings files surface o stdout := by
  cases hpaths : discover files settings.resultsDir with
  | error e => exact ⟨_, _, .undiscovered hpaths⟩
  | ok paths =>
      cases hmade : files.ensureDirectory settings.plotsDir with
      | error e => exact ⟨_, _, .unprepared hpaths hmade⟩
      | ok made =>
          have hprepared := prepared_of_ok hmade
          rcases handled_or_fails settings made surface paths with
            ⟨done, left, later, hdone⟩ |
            ⟨before, path, after, done, left, later, printed, text, e, last, rfl, hbefore, hfails⟩
          · cases hwanted : settings.overlay with
            | false => exact ⟨_, _, .finished hpaths hprepared hdone hwanted⟩
            | true =>
                rcases Chart.draws_or_fails left later (overlayPath settings)
                    (Chart.ofSeries (overlaySeries (done.map Finished.report)) settings.chart) with
                  ⟨drawing, final, last, hdraws⟩ | ⟨e, last, herror⟩
                · exact ⟨_, _, .overlaid hpaths hprepared hdone hwanted hdraws⟩
                · exact ⟨_, _, .overlayFailed hpaths hprepared hdone hwanted herror⟩
          · exact ⟨_, _, .stopped hpaths hprepared hbefore hfails⟩

/-- **The law of a run.** A run takes exactly one course; it leaves behind and prints what that course says. -/
theorem run_eq_iff_course {o : Outcome Path} :
    run settings files surface = o ∧ consoleText o.console = stdout ↔ Course settings files surface o stdout := by
  constructor
  · rintro ⟨rfl, rfl⟩
    obtain ⟨o, stdout, hcourse⟩ := exists_course settings files surface
    rw [hcourse.run_eq, hcourse.consoleText_eq]
    exact hcourse
  · exact fun hcourse => ⟨hcourse.run_eq, hcourse.consoleText_eq⟩

end Occupancy.Run
