import Occupancy.Proofs.Run.Agreement
import Occupancy.Proofs.Run.Overlay
import Occupancy.Proofs.Run.Script

/-! Runs compared. A run that is repeated in the files that it has left does the same once more and changes nothing, also if
it failed. Options that have to do with the output alone make no difference to anything else: a quiet run leaves out the
tables, and with other options for charts the same charts are written under the same names, each drawn as the options say
that it is about. -/

namespace Occupancy.Run

open FileSystem

variable {settings : Settings} {files made left : FileSystem} {paths : List Path} {r : Location}
  {done redone : List Finished} {extra : List (String × Content)} {console : List ConsoleLine}
  {result : Except RunError Path} {options : Chart.Options}

/-! ### The same run once more -/

/-- Two runs with the same result and the same output that leave the same entries. -/
structure SameOutcome (first second : Outcome Path) : Prop where
  result : second.result = first.result
  console : second.console = first.console
  workingDirectory : second.files.workingDirectory = first.files.workingDirectory
  lookup : ∀ l, second.files.lookup l = first.files.lookup l

theorem Chartable.of_sameRoom {again : FileSystem} {path : Path} {f : Finished}
    (h : Chartable settings files made path f) (hroom : SameRoom settings.plotsDir made again) :
    Chartable settings files again path f :=
  ⟨h.report, h.drawing, (hroom _ (Chart.isName_fileName _)).mpr h.room⟩

theorem AllChartable.of_sameRoom {again : FileSystem} (h : AllChartable settings files made paths done)
    (hroom : SameRoom settings.plotsDir made again) : AllChartable settings files again paths done := by
  induction h with
  | none => exact .none
  | next hfirst _ ih => exact .next (hfirst.of_sameRoom hroom) ih

/-- The script is the same where there is the same room for charts. -/
theorem Script.of_sameRoom {again : FileSystem} (h : Script settings files made paths console done extra result)
    (hroom : SameRoom settings.plotsDir made again) : Script settings files again paths console done extra result := by
  have hoverlay : again.CanWrite (overlayPath settings) ↔ made.CanWrite (overlayPath settings) :=
    hroom _ Chart.isName_overlayFileName
  cases h with
  | unread hsplit hdone herror => exact .unread hsplit (hdone.of_sameRoom hroom) herror
  | unwritten hsplit hdone hreport hfull =>
      refine .unwritten hsplit (hdone.of_sameRoom hroom) hreport ?_
      rwa [chartPath, hroom _ (Chart.isName_fileName _)]
  | overlayUnwritten hdone hwanted hfull => exact .overlayUnwritten (hdone.of_sameRoom hroom) hwanted (by rwa [hoverlay])
  | finished hdone hwrite hfree =>
      exact .finished (hdone.of_sameRoom hroom) hwrite fun hwanted => hoverlay.mpr (hfree hwanted)

/-- **Running again changes nothing.** A second run with the same settings over secluded results, in the files that the
first one left, has the same result and the same output, and leaves every entry as it is, whether or not it fails. -/
theorem run_again (h : Secluded settings files) :
    SameOutcome (run settings files .sound) (run settings (run settings files .sound).files .sound) := by
  rcases halted_or_prepared settings files with ⟨e, hhalted⟩ | ⟨paths, made, hpaths, hmade⟩
  · rw [hhalted.run_eq, hhalted.run_eq]
    exact ⟨rfl, rfl, rfl, fun _ => rfl⟩
  obtain ⟨r, hdir⟩ := resolve_of_discover hpaths
  obtain ⟨hgrown, -⟩ := h.grown hdir hpaths hmade.ensured
  obtain ⟨console, done, extra, result, hscript⟩ := exists_script settings files made (ne_nil_of_discover hpaths)
  obtain ⟨final, hwrites, hfinal, hrun⟩ := hscript.run_eq h hdir hpaths hgrown hpaths hmade
  -- what the first run wrote is no descriptor and takes no room, so the second one follows the same script
  have hdiscover : discover final settings.resultsDir = .ok paths := by rw [hfinal.discover_eq h.world hdir, hpaths]
  have hagain := hscript.of_sameRoom (hgrown.plots.writeAll_sameRoom hscript.isName hwrites)
  obtain ⟨last, hrewrites, hlast, hrerun⟩ := hagain.run_eq h hdir hpaths hfinal hdiscover hfinal.prepared
  rw [hrun, hrerun]
  refine ⟨rfl, rfl, ?_, hgrown.plots.lookup_writeAll_again hscript.isName hwrites hrewrites⟩
  rw [hlast.workingDirectory, hfinal.workingDirectory]

theorem run_again_namesakes :
    SameOutcome (run namesakeSettings namesakes .sound)
        (run namesakeSettings (run namesakeSettings namesakes .sound).files .sound) ∧
      ∃ dir, (run namesakeSettings (run namesakeSettings namesakes .sound).files .sound).result = .ok dir := by
  have hagain := run_again apart_namesakes.secluded
  obtain ⟨dir, hok⟩ := exists_ok_namesakes
  exact ⟨hagain, dir, hagain.result.trans hok⟩

/-! ### Quiet runs -/

def isTable : ConsoleLine → Bool
  | .table _ => true
  | _ => false

/-- What a run leaves behind, with the tables taken out of its output. -/
def Outcome.withoutTables {α : Type} (o : Outcome α) : Outcome α :=
  { o with console := o.console.filter fun line => !isTable line }

namespace Outcome

variable {α β : Type}

theorem withoutTables_andThen (first : Outcome α) (next : FileSystem → Surface → α → Outcome β) :
    (first.andThen next).withoutTables =
      first.withoutTables.andThen fun files surface a => (next files surface a).withoutTables := by
  obtain ⟨files, console, surface, result⟩ := first
  cases result with
  | error e => rfl
  | ok a => simp only [andThen, withoutTables, List.filter_append]

theorem withoutTables_map (f : α → β) (o : Outcome α) : (o.map f).withoutTables = o.withoutTables.map f := rfl

end Outcome

theorem withoutTables_charted {α : Type} (wrote : Path → ConsoleLine) (hwrote : ∀ path, isTable (wrote path) = false)
    (before : List ConsoleLine) (drawn : Chart.Drawn) (value : α) :
    (charted before drawn wrote value).withoutTables =
      charted (before.filter fun line => !isTable line) drawn wrote value := by
  rw [charted, charted]
  cases drawn.result with
  | error e => rfl
  | ok path => simp only [Outcome.withoutTables, List.filter_append, List.filter_cons, List.filter_nil, hwrote,
      Bool.not_false, if_true]

theorem lines_quiet (report : Report) : (report.lines false).filter (fun line => !isTable line) = report.lines true := by
  rw [Report.lines, Report.lines]
  cases report.descriptor.isInt32 <;> rfl

theorem reportOne_quiet (settings : Settings) (files : FileSystem) (surface : Surface) (path : Path) :
    reportOne { settings with quiet := true } files surface path =
      (reportOne { settings with quiet := false } files surface path).withoutTables := by
  rw [reportOne, reportOne]
  cases analyze files path settings.maxK with
  | error e => rfl
  | ok report =>
      simp only [withoutTables_charted .wroteChart fun _ => rfl, lines_quiet]
      rfl

theorem reportAll_quiet (settings : Settings) (files : FileSystem) (surface : Surface) (paths : List Path) :
    reportAll { settings with quiet := true } files surface paths =
      (reportAll { settings with quiet := false } files surface paths).withoutTables := by
  induction paths generalizing files surface with
  | nil => rfl
  | cons path paths ih =>
      rw [reportAll, reportAll, reportOne_quiet, Outcome.withoutTables_andThen]
      simp only [Outcome.withoutTables_map, ih]

theorem overlay_quiet (settings : Settings) (files : FileSystem) (surface : Surface) (reports : List Report) :
    overlay { settings with quiet := true } files surface reports =
      (overlay { settings with quiet := false } files surface reports).withoutTables := by
  simp only [overlay]
  cases settings.overlay with
  | false => rfl
  | true => exact (withoutTables_charted .wroteOverlay (fun _ => rfl) [] _ ()).symm

/-- A quiet run differs from one that is not quiet in nothing but the tables that it does not print. -/
theorem run_withQuiet (settings : Settings) (files : FileSystem) (surface : Surface) :
    run { settings with quiet := true } files surface =
      (run { settings with quiet := false } files surface).withoutTables := by
  simp only [run]
  split
  · rfl
  · have hplots : { settings with quiet := true }.plotsDir = { settings with quiet := false }.plotsDir := rfl
    rw [hplots]
    split
    · rfl
    · rw [chartAll, chartAll, reportAll_quiet, Outcome.withoutTables_map, Outcome.withoutTables_andThen]
      have hoverlay : overlay { settings with quiet := true } = fun files surface reports =>
          (overlay { settings with quiet := false } files surface reports).withoutTables := by
        funext files surface reports
        exact overlay_quiet settings files surface reports
      rw [hoverlay]
      rfl

/-! ### Other options for charts -/

/-- The paths of the charts, the overlay included, that are announced on the console. -/
def writtenPaths (console : List ConsoleLine) : List Path :=
  console.filterMap fun
    | .wroteChart path | .wroteOverlay path => some path
    | _ => none

/-- What a run has written, in order: these charts, and each of them has been announced. -/
structure Wrote (settings : Settings) (files : FileSystem) (o : Outcome Path) (writes : List (String × Content)) :
    Prop where
  written : ∃ made, (made = files ∨ files.ensureDirectory settings.plotsDir = .ok made) ∧
    made.writeAll settings.plotsDir writes = .ok o.files
  announced : writes.map (fun w => settings.plotsDir.join ⟨w.1⟩) = writtenPaths o.console

theorem writtenPaths_append (first second : List ConsoleLine) :
    writtenPaths (first ++ second) = writtenPaths first ++ writtenPaths second := List.filterMap_append

theorem writtenPaths_lines (report : Report) (quiet : Bool) : writtenPaths (report.lines quiet) = [] := by
  rw [Report.lines]
  cases report.descriptor.isInt32 <;> cases quiet <;> rfl

theorem writtenPaths_blocks (settings : Settings) (done : List Finished) :
    writtenPaths (blocks settings done) = (chartWrites done).map fun w => settings.plotsDir.join ⟨w.1⟩ := by
  induction done with
  | nil => rfl
  | cons f done ih =>
      rw [blocks, List.flatMap_cons, block, writtenPaths_append, writtenPaths_append, writtenPaths_lines, ← blocks, ih]
      rfl

theorem writtenPaths_overlayLines (h : OverlayWrite settings done extra) :
    writtenPaths (overlayLines settings) = extra.map fun w => settings.plotsDir.join ⟨w.1⟩ := by
  cases h with
  | unwanted hunwanted => rw [overlayLines, hunwanted]; rfl
  | wanted hwanted => rw [overlayLines, hwanted]; rfl

/-- What is written is what is announced. -/
theorem Script.writtenPaths_eq (h : Script settings files made paths console done extra result) :
    (chartWrites done ++ extra).map (fun w => settings.plotsDir.join ⟨w.1⟩) = writtenPaths console := by
  rw [List.map_append, ← writtenPaths_blocks]
  cases h with
  | unread => exact List.append_nil _
  | unwritten => rw [writtenPaths_append, writtenPaths_lines]; rfl
  | overlayUnwritten => exact List.append_nil _
  | finished _ hoverlay _ => rw [writtenPaths_append, writtenPaths_overlayLines hoverlay]

/-- The same charts drawn with other options: of the same reports, and under the same names. Whether the overlay is of
fractions makes no difference to the charts of algorithms, and whether these show the expectation makes none to the
overlay. -/
structure Redrawn (settings : Settings) (options : Chart.Options) (done redone : List Finished)
    (extra reextra : List (String × Content)) : Prop where
  reports : redone.map Finished.report = done.map Finished.report
  names : reextra.map Prod.fst = extra.map Prod.fst
  charts : options.scale = settings.chart.scale → options.showPoisson = settings.chart.showPoisson → redone = done
  overlay : options.scale = settings.chart.scale → options.normalizeOverlay = settings.chart.normalizeOverlay →
    reextra = extra

theorem ofHistogram_congr {options others : Chart.Options} (hscale : options.scale = others.scale)
    (hpoisson : options.showPoisson = others.showPoisson) (d : Descriptor) (h : Histogram) :
    Chart.ofHistogram d h options = Chart.ofHistogram d h others := by
  simp only [Chart.ofHistogram, hscale, hpoisson]

theorem ofSeries_congr {options others : Chart.Options} (hscale : options.scale = others.scale)
    (hnormalize : options.normalizeOverlay = others.normalizeOverlay) (series : List Chart.Series) :
    Chart.ofSeries series options = Chart.ofSeries series others := by
  simp only [Chart.ofSeries, hscale, hnormalize]

theorem exists_redone (hdone : AllChartable settings files made paths done) (options : Chart.Options) :
    ∃ redone, AllChartable { settings with chart := options } files made paths redone ∧
      redone.map Finished.report = done.map Finished.report ∧
        (options.scale = settings.chart.scale → options.showPoisson = settings.chart.showPoisson → redone = done) := by
  induction hdone with
  | none => exact ⟨[], .none, rfl, fun _ _ => rfl⟩
  | @next path paths f done hf _ ih =>
      obtain ⟨redone, hredone, hreports, hcharts⟩ := ih
      obtain ⟨drawing, hdrawing⟩ := exists_ofHistogram (frequencies_ne_nil hf.report) options
      refine ⟨⟨f.report, drawing⟩ :: redone, .next ⟨hf.report, hdrawing, hf.room⟩ hredone, ?_, ?_⟩
      · rw [List.map_cons, List.map_cons, hreports]
      · intro hscale hpoisson
        rw [ofHistogram_congr hscale hpoisson, hf.drawing] at hdrawing
        cases hdrawing
        rw [hcharts hscale hpoisson]

theorem blocks_redone (hreports : redone.map Finished.report = done.map Finished.report) (options : Chart.Options) :
    blocks { settings with chart := options } redone = blocks settings done := by
  have hblocks (settings : Settings) (done : List Finished) :
      blocks settings done = (done.map Finished.report).flatMap (block settings) := by rw [blocks, List.flatMap_map]
  rw [hblocks, hblocks, hreports]
  rfl

theorem exists_overlayWrite (hoverlay : OverlayWrite settings done extra)
    (hredone : AllChartable { settings with chart := options } files made paths redone) (hpaths : paths ≠ [])
    (hreports : redone.map Finished.report = done.map Finished.report) :
    ∃ reextra, OverlayWrite { settings with chart := options } redone reextra ∧
      reextra.map Prod.fst = extra.map Prod.fst ∧
        (options.scale = settings.chart.scale → options.normalizeOverlay = settings.chart.normalizeOverlay →
          reextra = extra) := by
  cases hoverlay with
  | unwanted hunwanted => exact ⟨[], .unwanted hunwanted, rfl, fun _ _ => rfl⟩
  | @wanted drawing hwanted hdrawing =>
      obtain ⟨redrawing, hredrawing⟩ := hredone.exists_overlay hpaths
      refine ⟨_, .wanted hwanted hredrawing, rfl, ?_⟩
      intro hscale hnormalize
      rw [ofSeries_congr hscale hnormalize, hreports, hdrawing] at hredrawing
      cases hredrawing
      rfl

/-- With other options for charts, the script is the same but for the charts themselves. -/
theorem Script.exists_redrawn (h : Script settings files made paths console done extra result) (hpaths : paths ≠ [])
    (options : Chart.Options) :
    ∃ redone reextra, Script { settings with chart := options } files made paths console redone reextra result ∧
      Redrawn settings options done redone extra reextra := by
  cases h with
  | unread hsplit hdone herror =>
      obtain ⟨redone, hredone, hreports, hcharts⟩ := exists_redone hdone options
      have hscript := Script.unread hsplit hredone herror
      rw [blocks_redone hreports] at hscript
      exact ⟨redone, [], hscript, hreports, rfl, hcharts, fun _ _ => rfl⟩
  | unwritten hsplit hdone hreport hroom =>
      obtain ⟨redone, hredone, hreports, hcharts⟩ := exists_redone hdone options
      have hscript := Script.unwritten hsplit hredone hreport hroom
      rw [blocks_redone hreports] at hscript
      exact ⟨redone, [], hscript, hreports, rfl, hcharts, fun _ _ => rfl⟩
  | overlayUnwritten hdone hwanted hroom =>
      obtain ⟨redone, hredone, hreports, hcharts⟩ := exists_redone hdone options
      have hscript := Script.overlayUnwritten hredone hwanted hroom
      rw [blocks_redone hreports] at hscript
      exact ⟨redone, [], hscript, hreports, rfl, hcharts, fun _ _ => rfl⟩
  | finished hdone hoverlay hroom =>
      obtain ⟨redone, hredone, hreports, hcharts⟩ := exists_redone hdone options
      obtain ⟨reextra, hreextra, hnames, hsame⟩ := exists_overlayWrite hoverlay hredone hpaths hreports
      have hscript := Script.finished hredone hreextra hroom
      rw [blocks_redone hreports] at hscript
      exact ⟨redone, reextra, hscript, hreports, hnames, hcharts, hsame⟩

/-- What becomes of two runs that differ in their options for charts. They end alike and print the same, and they write charts
to the same names in the same order. If they differ only in whether the overlay is of fractions, no entry but that of the
overlay is different, and if they differ only in whether the expectation is shown, an overlay that is drawn is the same. -/
structure EndAlike (settings : Settings) (options : Chart.Options) (files : FileSystem) (one other : Outcome Path) :
    Prop where
  result : other.result = one.result
  console : other.console = one.console
  written : ∃ writes rewrites, Wrote settings files one writes ∧ Wrote settings files other rewrites ∧
    rewrites.map Prod.fst = writes.map Prod.fst
  charts : options.scale = settings.chart.scale → options.showPoisson = settings.chart.showPoisson →
    ∀ l, other.files.lookup l ≠ one.files.lookup l → settings.overlay = true ∧
      ∃ r, files.resolve true settings.resultsDir = .ok (.occupied r .directory) ∧
        l = Chart.overlayFileName :: "plots" :: r
  overlay : options.scale = settings.chart.scale → options.normalizeOverlay = settings.chart.normalizeOverlay →
    settings.overlay = true → ∀ dir, one.result = .ok dir →
      ∃ entry, one.files.openEntry (overlayPath settings) = .ok entry ∧
        other.files.openEntry (overlayPath settings) = .ok entry

theorem Secluded.withChart (h : Secluded settings files) (options : Chart.Options) :
    Secluded { settings with chart := options } files := ⟨⟨h.world, h.noLink, h.noLinks⟩, h.counts⟩

theorem Grown.withChart (h : Grown settings r files made) (options : Chart.Options) :
    Grown { settings with chart := options } r files made :=
  ⟨h.world, h.workingDirectory, h.outside, h.results, h.directory, h.plots⟩

theorem Prepared.withChart (h : Prepared settings files made) (options : Chart.Options) :
    Prepared { settings with chart := options } files made := ⟨h.ensured, h.present, h.change⟩

theorem Halted.withChart {e : RunError} (h : Halted settings files e) (options : Chart.Options) :
    Halted { settings with chart := options } files e := by
  cases h with
  | undiscovered herror => exact .undiscovered herror
  | unprepared hpaths herror => exact .unprepared hpaths herror

theorem Redrawn.map_fst_writes {reextra : List (String × Content)}
    (h : Redrawn settings options done redone extra reextra) :
    (chartWrites redone ++ reextra).map Prod.fst = (chartWrites done ++ extra).map Prod.fst := by
  have hcharts (done : List Finished) : (chartWrites done).map Prod.fst =
      (done.map Finished.report).map fun report => Chart.fileName report.descriptor.algorithm := by
    rw [chartWrites, List.map_map, List.map_map]
    rfl
  rw [List.map_append, List.map_append, hcharts, hcharts, h.reports, h.names]

/-- Besides the charts of algorithms at most the overlay is written. -/
theorem Script.eq_overlayFileName (h : Script settings files made paths console done extra result) :
    ∀ name ∈ extra.map Prod.fst, settings.overlay = true ∧ name = Chart.overlayFileName := by
  cases h with
  | unread => exact List.forall_mem_nil _
  | unwritten => exact List.forall_mem_nil _
  | overlayUnwritten => exact List.forall_mem_nil _
  | finished _ hoverlay _ =>
      cases hoverlay with
      | unwanted => exact List.forall_mem_nil _
      | wanted hwanted => exact List.forall_mem_singleton.mpr ⟨hwanted, rfl⟩

/-- Two runs that draw the same charts of algorithms leave the same entries, but for the overlay. -/
theorem Script.overlay_of_lookup_ne {final refinal : FileSystem} {reextra : List (String × Content)} {l : Location}
    (h : Script settings files made paths console done extra result)
    (hredrawn : Redrawn settings options done redone extra reextra) (hsame : redone = done)
    (hunlinked : Unlinked settings.plotsDir ("plots" :: r) made)
    (hwrites : made.writeAll settings.plotsDir (chartWrites done ++ extra) = .ok final)
    (hrewrites : made.writeAll settings.plotsDir (chartWrites redone ++ reextra) = .ok refinal)
    (hne : refinal.lookup l ≠ final.lookup l) :
    settings.overlay = true ∧ l = Chart.overlayFileName :: "plots" :: r := by
  subst hsame
  have hnames : ∀ w ∈ chartWrites redone ++ reextra, Path.IsName w.1 := by
    rw [← List.forall_mem_map (P := Path.IsName), hredrawn.map_fst_writes, List.forall_mem_map]
    exact h.isName
  refine Classical.byContradiction fun hl => hne ?_
  refine hunlinked.lookup_writeAll_congr h.isName hnames hwrites hrewrites fun name hname => ?_
  have hnone : name ∉ extra.map Prod.fst := by
    intro hmem
    obtain ⟨hwanted, rfl⟩ := h.eq_overlayFileName name hmem
    exact hl ⟨hwanted, hname⟩
  rw [lastWrite_append, lastWrite_append, lastWrite_eq_none hnone, lastWrite_eq_none (hredrawn.names ▸ hnone)]

theorem run_withChart (h : Secluded settings files) (options : Chart.Options) :
    EndAlike settings options files (run settings files .sound)
      (run { settings with chart := options } files .sound) := by
  rcases halted_or_prepared settings files with ⟨e, hhalted⟩ | ⟨paths, made, hpaths, hmade⟩
  · rw [hhalted.run_eq, (hhalted.withChart options).run_eq]
    have hnothing : Wrote settings files ⟨files, [], .sound, .error e⟩ [] := ⟨⟨files, Or.inl rfl, rfl⟩, rfl⟩
    exact ⟨rfl, rfl, ⟨[], [], hnothing, hnothing, rfl⟩, fun _ _ l hne => absurd rfl hne, nofun⟩
  obtain ⟨r, hdir⟩ := resolve_of_discover hpaths
  obtain ⟨hgrown, -⟩ := h.grown hdir hpaths hmade.ensured
  obtain ⟨console, done, extra, result, hscript⟩ := exists_script settings files made (ne_nil_of_discover hpaths)
  -- both runs prepare the same files, and from there each follows its own script
  obtain ⟨redone, reextra, hrescript, hredrawn⟩ := hscript.exists_redrawn (ne_nil_of_discover hpaths) options
  obtain ⟨final, hwrites, -, hrun⟩ := hscript.run_eq h hdir hpaths hgrown hpaths hmade
  obtain ⟨refinal, hrewrites, -, hrerun⟩ := hrescript.run_eq (h.withChart options) hdir hpaths (hgrown.withChart options)
    hpaths (hmade.withChart options)
  rw [hrun, hrerun]
  refine ⟨rfl, rfl, ⟨_, _, ⟨⟨made, Or.inr hmade.ensured, hwrites⟩, hscript.writtenPaths_eq⟩,
    ⟨⟨made, Or.inr hmade.ensured, hrewrites⟩, hrescript.writtenPaths_eq⟩, hredrawn.map_fst_writes⟩, ?_, ?_⟩
  · intro hscale hpoisson l hne
    obtain ⟨hwanted, hl⟩ := hscript.overlay_of_lookup_ne hredrawn (hredrawn.charts hscale hpoisson) hgrown.plots hwrites
      hrewrites hne
    exact ⟨hwanted, r, hdir, hl⟩
  · intro hscale hnormalize hwanted dir hok
    cases hok
    obtain ⟨-, hoverlay, -⟩ := hscript.of_ok
    cases hoverlay with
    | unwanted hunwanted => rw [hwanted] at hunwanted; cases hunwanted
    | @wanted drawing _ _ =>
        have hreextra := hredrawn.overlay hscale hnormalize
        subst hreextra
        obtain ⟨entry, hentry⟩ := exists_stored (made.lookup (Chart.overlayFileName :: "plots" :: r)) (.chart drawing)
        refine ⟨entry, ?_, ?_⟩
        · exact (hgrown.plots.openEntry_writeAll_concat hscript.isName hwrites).mpr hentry
        · exact (hgrown.plots.openEntry_writeAll_concat hrescript.isName hrewrites).mpr hentry

/-- **Options change what they are about and nothing else.** A quiet run is one that is not quiet without its tables; and
over secluded results, with other options for charts a run ends alike. -/
theorem options_noninterference (settings : Settings) (files : FileSystem) :
    (∀ surface, run { settings with quiet := true } files surface =
      (run { settings with quiet := false } files surface).withoutTables) ∧
    (Secluded settings files → ∀ options : Chart.Options,
      EndAlike settings options files (run settings files .sound)
        (run { settings with chart := options } files .sound)) :=
  ⟨run_withQuiet settings files, fun h options => run_withChart h options⟩

theorem resolve_sole : soleResults.resolve true cappedSettings.resultsDir = .ok (.occupied ["r"] .directory) := rfl

theorem secluded_sole : Secluded cappedSettings soleResults where
  world := ⟨linkFree_sole.tree, by decide, by decide⟩
  noLink r hdir target := by
    rw [resolve_sole] at hdir
    cases hdir
    nofun
  noLinks r hdir name target := by
    have hfree : soleResults.lookup ["plots", "r"] = none := rfl
    rw [resolve_sole] at hdir
    cases hdir
    rw [linkFree_sole.tree.lookup_eq_none hfree name]
    nofun
  counts r paths hdir hpaths path hpath d hd := by
    rw [resolve_sole] at hdir
    rw [discover_sole] at hpaths
    cases hdir
    cases hpaths
    cases List.mem_singleton.mp hpath
    have hdescriptor : d = twoBuckets.descriptor := Loading.eq_of_loadDescriptor_text rfl hd
    rw [hdescriptor]
    decide +kernel

/-- The overlay is the same without the expectation. -/
theorem options_noninterference_sole :
    ∃ entry, (run cappedSettings soleResults .sound).files.openEntry (overlayPath cappedSettings) = .ok entry ∧
      (run { cappedSettings with chart := ⟨.linear, false, true⟩ } soleResults .sound).files.openEntry
        (overlayPath cappedSettings) = .ok entry := by
  obtain ⟨dir, hok⟩ := exists_ok_sole
  have hends := (options_noninterference cappedSettings soleResults).2 secluded_sole ⟨.linear, false, true⟩
  exact hends.overlay rfl rfl rfl dir hok

end Occupancy.Run
