import Occupancy.Proofs.FileSystem.Looks
import Occupancy.Proofs.FileSystem.Writable
import Occupancy.Proofs.FileSystem.World
import Occupancy.Proofs.Run.Analysis
import Occupancy.Proofs.Run.Charts

/-! What a run changes in the files, whether it succeeds or fails. It makes the directory of the charts where nothing was,
and it puts charts into this directory under names that are taken from descriptors, whatever these say. Every other entry
stays as it is, so that in every state on its way the run finds the descriptors that were there at the start. -/

namespace Occupancy.Run

open FileSystem

variable {settings : Settings} {files fs changed made left : FileSystem} {surface later : Surface} {path : Path}
  {r l : Location} {paths : List Path} {done : List Finished} {extra : List (String × Content)} {o : Outcome Path}

/-! ### The states of a run -/

/-- The directory of the charts is no link, and no entry in it is one. -/
structure PlainPlots (settings : Settings) (files : FileSystem) : Prop where
  world : files.IsWorld
  noLink : ∀ r, files.resolve true settings.resultsDir = .ok (.occupied r .directory) →
    ∀ target, files.lookup ("plots" :: r) ≠ some (.link target)
  noLinks : ∀ r, files.resolve true settings.resultsDir = .ok (.occupied r .directory) →
    ∀ name target, files.lookup (name :: "plots" :: r) ≠ some (.link target)

/-- A state of a run over the results at `r`: only the directory of the charts has changed, and it is a directory
without links. -/
structure Grown (settings : Settings) (r : Location) (files fs : FileSystem) : Prop where
  world : fs.IsWorld
  workingDirectory : fs.workingDirectory = files.workingDirectory
  outside : ∀ l, ¬("plots" :: r) <:+ l → fs.lookup l = files.lookup l
  results : fs.resolve true settings.resultsDir = .ok (.occupied r .directory)
  directory : fs.lookup ("plots" :: r) = some .directory
  plots : Unlinked settings.plotsDir ("plots" :: r) fs

theorem isName_plots : Path.IsName "plots" := ⟨by decide, by decide, by decide, by decide, by decide⟩

/-- Where descriptors are found, there is a directory. -/
theorem lookup_of_discover (hworld : files.IsWorld)
    (hdir : files.resolve true settings.resultsDir = .ok (.occupied r .directory))
    (hpaths : discover files settings.resultsDir = .ok paths) : files.lookup r = some .directory := by
  obtain ⟨path, hpath⟩ := List.exists_mem_of_ne_nil paths (ne_nil_of_discover hpaths)
  obtain ⟨name, content, -, hmem, -⟩ := exists_name_of_discover hdir hpaths hpath
  exact hworld.tree _ (mem_entries_of_lookup (hworld.mem_children_iff.mp hmem))

/-- Once the directory of the charts is there, nothing else has changed. -/
theorem PlainPlots.grown (h : PlainPlots settings files)
    (hdir : files.resolve true settings.resultsDir = .ok (.occupied r .directory))
    (hpaths : discover files settings.resultsDir = .ok paths)
    (hmade : files.ensureDirectory settings.plotsDir = .ok made) :
    Grown settings r files made ∧
      (made = files ∨ files.lookup ("plots" :: r) = none ∧ made = files.insert ("plots" :: r) .directory) := by
  obtain ⟨l, hleads, hchange⟩ := ensureDirectory_of_ok (plotsDir_endsInSegment settings) hmade
  rcases hchange with rfl | ⟨hfree, rfl⟩
  · obtain ⟨rfl, hplots⟩ := eq_of_resolve_join hdir isName_plots (h.noLink r hdir) hleads
    exact ⟨⟨h.world, rfl, fun _ _ => rfl, hdir, hplots, hleads, h.noLinks r hdir⟩, Or.inl rfl⟩
  · have hchange : LeafChange l files (files.insert l .directory) := .insert _ (by rw [hfree]; trivial)
    have hresults := hchange.resolve hdir fun _ => rfl
    have hnoLink (target : String) : (files.insert l .directory).lookup ("plots" :: r) ≠ some (.link target) := by
      by_cases hl : "plots" :: r = l
      · subst hl
        rw [lookup_insert_self files _ (List.cons_ne_nil _ _)]
        nofun
      · rw [hchange.elsewhere _ hl]
        exact h.noLink r hdir target
    obtain ⟨rfl, hplots⟩ := eq_of_resolve_join hresults isName_plots hnoLink hleads
    have hworld : (files.insert ("plots" :: r) .directory).IsWorld :=
      h.world.insert (lookup_of_discover h.world hdir hpaths) isName_plots fun _ => rfl
    refine ⟨⟨hworld, rfl, ?_, hresults, hplots, hleads, ?_⟩, Or.inr ⟨hfree, rfl⟩⟩
    · intro l hl
      apply hchange.elsewhere
      rintro rfl
      exact hl List.suffix_rfl
    · intro name target
      rw [hchange.elsewhere _ (List.cons_ne_self _ _)]
      exact h.noLinks r hdir name target

/-- What a run writes to the directory of the charts leaves the results alone. -/
theorem Grown.write (h : Grown settings r files fs) {name : String} (hname : Path.IsName name) {content : Content}
    (hwrite : fs.write (settings.plotsDir.join ⟨name⟩) content = .ok changed) : Grown settings r files changed := by
  obtain ⟨-, hwritten⟩ := h.plots.written hname hwrite
  have hresults := hwritten.change.resolve h.results fun _ => rfl
  refine ⟨h.world.write h.plots h.directory hname hwrite, ?_, ?_, hresults, ?_, h.plots.of_written hwritten⟩
  · rw [hwritten.change.workingDirectory, h.workingDirectory]
  · intro l hl
    rw [hwritten.change.elsewhere l, h.outside l hl]
    rintro rfl
    exact hl (List.suffix_cons _ _)
  · rw [hwritten.change.elsewhere _ (List.cons_ne_self _ _).symm, h.directory]

theorem Grown.writeAll {writes : List (String × Content)} (h : Grown settings r files fs)
    (hnames : ∀ w ∈ writes, Path.IsName w.1) (hwrites : fs.writeAll settings.plotsDir writes = .ok changed) :
    Grown settings r files changed := by
  induction writes generalizing fs with
  | nil =>
      cases hwrites
      exact h
  | cons w writes ih =>
      obtain ⟨between, hwrite, hwrites⟩ := exists_write_of_writeAll hwrites
      exact ih (h.write (hnames w List.mem_cons_self) hwrite) (fun w hw => hnames w (List.mem_cons_of_mem _ hw)) hwrites

/-! ### Descriptors -/

theorem not_plots_suffix {name : String} (h : isDescriptorName name = true) : ¬("plots" :: r) <:+ name :: r := by
  intro hsuffix
  have heq := hsuffix.eq_of_length (by rw [List.length_cons, List.length_cons])
  cases heq
  exact absurd h (by decide)

/-- In every state of the run, a descriptor is opened as it is at the start. -/
theorem Grown.openEntry_eq (h : Grown settings r files fs) (hworld : files.IsWorld)
    (hdir : files.resolve true settings.resultsDir = .ok (.occupied r .directory))
    (hpaths : discover files settings.resultsDir = .ok paths) (hpath : path ∈ paths) :
    fs.openEntry path = files.openEntry path := by
  obtain ⟨name, content, rfl, hmem, hdescriptor⟩ := exists_name_of_discover hdir hpaths hpath
  obtain ⟨hlookup, hname⟩ := hworld.of_mem_children hmem
  have hsame : fs.lookup (name :: r) = files.lookup (name :: r) := h.outside _ (not_plots_suffix hdescriptor)
  rw [openEntry, openEntry, resolve_join hdir hname (ne_link_of_file hlookup),
    resolve_join h.results hname (ne_link_of_file (hsame.trans hlookup)), placeAt, placeAt, hsame]

/-- In every state of the run, the descriptors are found that are found at the start. -/
theorem Grown.discover_eq (h : Grown settings r files fs) (hworld : files.IsWorld)
    (hdir : files.resolve true settings.resultsDir = .ok (.occupied r .directory)) :
    discover fs settings.resultsDir = discover files settings.resultsDir :=
  discover_congr hworld h.world hdir h.results fun _ hname => h.outside _ (not_plots_suffix hname)

/-- Where the directory of the charts is there already, nothing is made. -/
theorem Grown.prepared (h : Grown settings r files fs) : Prepared settings fs fs := by
  have hfits : Fits settings.resultsDir "plots" := by
    refine Decidable.byContradiction fun hlong => ?_
    have hleads := resolve_join h.results isName_plots (by rw [h.directory]; nofun) true
    rw [if_neg hlong, ← Settings.plotsDirFor, ← Settings.plotsDir, h.plots.leads] at hleads
    cases hleads
  apply prepared_of_ok
  rw [Settings.plotsDir, Settings.plotsDirFor, ensureDirectory_join h.results isName_plots (Or.inr h.directory),
    if_pos hfits, withDirectory, h.directory]

/-- The results are secluded from the charts: there are no links in the way, and on the way to the counts of no descriptor
the directory of the charts is looked at or entered. -/
structure Secluded (settings : Settings) (files : FileSystem) : Prop extends PlainPlots settings files where
  counts : ∀ r paths, files.resolve true settings.resultsDir = .ok (.occupied r .directory) →
    discover files settings.resultsDir = .ok paths → ∀ path ∈ paths, ∀ d, Loading.loadDescriptor files path = .ok d →
      ∀ l ∈ files.looks (Loading.countsPath path d), ¬("plots" :: r) <:+ l

/-- In every state of the run, a descriptor is loaded as it is at the start. -/
theorem Grown.loadAlgorithm_eq (h : Grown settings r files fs) (hsecluded : Secluded settings files)
    (hdir : files.resolve true settings.resultsDir = .ok (.occupied r .directory))
    (hpaths : discover files settings.resultsDir = .ok paths) (hpath : path ∈ paths) :
    Loading.loadAlgorithm fs path = Loading.loadAlgorithm files path := by
  have hopen := h.openEntry_eq hsecluded.world hdir hpaths hpath
  refine Loading.loadAlgorithm_congr hopen fun d hd => ?_
  refine read_eq_of_sameAt h.workingDirectory fun l hl => ?_
  exact h.outside l (hsecluded.counts r paths hdir hpaths path hpath d hd l hl)

/-- In every state of the run, a descriptor is analyzed as it is at the start. -/
theorem Grown.analyze_eq (h : Grown settings r files fs) (hsecluded : Secluded settings files)
    (hdir : files.resolve true settings.resultsDir = .ok (.occupied r .directory))
    (hpaths : discover files settings.resultsDir = .ok paths) (hpath : path ∈ paths) (cap : Option UInt32) :
    analyze fs path cap = analyze files path cap := by
  rw [analyze, analyze, h.loadAlgorithm_eq hsecluded hdir hpaths hpath]

/-- The algorithms that a run has handled are those of the descriptors at the start. -/
theorem Handled.exists_descriptor (h : Handled settings fs surface paths done left later)
    (hgrown : Grown settings r files fs)
    (hopen : ∀ path ∈ paths, ∀ fs, Grown settings r files fs → fs.openEntry path = files.openEntry path) :
    ∀ f ∈ done, ∃ path ∈ paths, Loading.loadDescriptor files path = .ok f.report.descriptor := by
  induction h with
  | none => exact List.forall_mem_nil _
  | @next fs between left surface next later path paths f done hfirst _ ih =>
      have hload : Loading.loadDescriptor files path = .ok f.report.descriptor := by
        rw [← loadDescriptor_of_analyze hfirst.report, Loading.loadDescriptor, Loading.loadDescriptor,
          hopen path List.mem_cons_self fs hgrown]
      have hbetween := hgrown.write (Chart.isName_fileName _) hfirst.drawn.wrote
      have hrest := ih hbetween fun path hpath => hopen path (List.mem_cons_of_mem _ hpath)
      refine List.forall_mem_cons.mpr ⟨⟨path, List.mem_cons_self, hload⟩, ?_⟩
      intro f hf
      obtain ⟨path, hpath, hload⟩ := hrest f hf
      exact ⟨path, List.mem_cons_of_mem _ hpath, hload⟩

/-! ### The change -/

/-- A name that a run may write a chart under: that of the algorithm of a descriptor that is found, or that of the overlay
if it is wanted. -/
inductive IsChartName (settings : Settings) (files : FileSystem) : String → Prop
  | algorithm {paths : List Path} {path : Path} {d : Descriptor}
      (hpaths : discover files settings.resultsDir = .ok paths) (hpath : path ∈ paths)
      (hdescriptor : Loading.loadDescriptor files path = .ok d) :
      IsChartName settings files (Chart.fileName d.algorithm)
  | overlay (hwanted : settings.overlay = true) : IsChartName settings files Chart.overlayFileName

/-- Whatever descriptors say, the names of charts are names of entries. -/
theorem IsChartName.isName {name : String} (h : IsChartName settings files name) : Path.IsName name := by
  cases h with
  | algorithm => exact Chart.isName_fileName _
  | overlay => exact Chart.isName_overlayFileName

/-- The changes that a run over the results at `r` may make: the directory of the charts is made where nothing was, and
charts are put directly into it. -/
inductive ChartChange (settings : Settings) (r : Location) (files final : FileSystem) : Location → Prop
  | directory (hfree : files.lookup ("plots" :: r) = none) (hmade : final.lookup ("plots" :: r) = some .directory) :
      ChartChange settings r files final ("plots" :: r)
  | chart {name : String} {drawing : Drawing Float} (hname : IsChartName settings files name)
      (hchart : final.lookup (name :: "plots" :: r) = some (.file (.chart drawing))) :
      ChartChange settings r files final (name :: "plots" :: r)

/-- All changes are at or directly below the directory of the charts. -/
theorem ChartChange.suffix (h : ChartChange settings r files left l) : ("plots" :: r) <:+ l := by
  cases h with
  | directory => exact List.suffix_rfl
  | chart => exact List.suffix_cons _ _

/-- What a course writes, if it comes to writing anything. -/
theorem Course.exists_writes {stdout : String} (h : Course settings files surface o stdout) :
    o.files = files ∨ ∃ before after made left later done extra,
      discover files settings.resultsDir = .ok (before ++ after) ∧ Prepared settings files made ∧
        Handled settings made surface before done left later ∧ (extra = [] ∨ OverlayWrite settings done extra) ∧
          made.writeAll settings.plotsDir (chartWrites done ++ extra) = .ok o.files := by
  cases h with
  | undiscovered => exact Or.inl rfl
  | unprepared => exact Or.inl rfl
  | @stopped before after path made left done later last printed text e hpaths hmade hbefore hfails =>
      refine Or.inr ⟨before, path :: after, made, left, later, done, [], hpaths, hmade, hbefore, Or.inl rfl, ?_⟩
      rw [List.append_nil]
      exact hbefore.writeAll
  | @overlayFailed paths made left done later last e hpaths hmade hdone hwanted herror =>
      refine Or.inr ⟨paths, [], made, left, later, done, [], ?_, hmade, hdone, Or.inl rfl, ?_⟩
      · rw [List.append_nil, hpaths]
      · rw [List.append_nil]
        exact hdone.writeAll
  | @finished paths made left done later hpaths hmade hdone hunwanted =>
      refine Or.inr ⟨paths, [], made, left, later, done, [], ?_, hmade, hdone, Or.inl rfl, ?_⟩
      · rw [List.append_nil, hpaths]
      · rw [List.append_nil]
        exact hdone.writeAll
  | @overlaid paths made left final done later last drawing hpaths hmade hdone hwanted hdraws =>
      refine Or.inr ⟨paths, [], made, left, later, done, [(Chart.overlayFileName, .chart drawing)], ?_, hmade, hdone,
        Or.inr (.wanted hwanted hdraws.exists_chart), ?_⟩
      · rw [List.append_nil, hpaths]
      · rw [writeAll_append_of_ok hdone.writeAll]
        exact writeAll_cons_of_ok hdraws.wrote []

/-- Everything that is written is a chart, under a name for charts. -/
theorem charts_of_mem_writes {before after : List Path}
    (hpaths : discover files settings.resultsDir = .ok (before ++ after))
    (hdescriptors : ∀ f ∈ done, ∃ path ∈ before, Loading.loadDescriptor files path = .ok f.report.descriptor)
    (hextra : extra = [] ∨ OverlayWrite settings done extra) :
    ∀ w ∈ chartWrites done ++ extra, IsChartName settings files w.1 ∧ ∃ drawing, w.2 = .chart drawing := by
  intro w hw
  rcases List.mem_append.mp hw with hchart | hoverlay
  · obtain ⟨f, hf, rfl⟩ := List.mem_map.mp hchart
    obtain ⟨path, hpath, hdescriptor⟩ := hdescriptors f hf
    exact ⟨.algorithm hpaths (List.mem_append_left _ hpath) hdescriptor, f.drawing, rfl⟩
  · rcases hextra with rfl | hextra
    · cases hoverlay
    · cases hextra with
      | unwanted => cases hoverlay
      | @wanted drawing hwanted _ =>
          cases List.mem_singleton.mp hoverlay
          exact ⟨.overlay hwanted, drawing, rfl⟩

/-- Where charts have been written into a directory without links, only charts are new. -/
theorem chart_of_lookup_ne {writes : List (String × Content)} {dir : Path} {d : Location} (h : Unlinked dir d made)
    (hnames : ∀ w ∈ writes, Path.IsName w.1) (hcharts : ∀ w ∈ writes, ∃ drawing, w.2 = .chart drawing)
    (hwrites : made.writeAll dir writes = .ok left) (hne : left.lookup l ≠ made.lookup l) :
    ∃ name drawing, l = name :: d ∧ name ∈ writes.map Prod.fst ∧ left.lookup l = some (.file (.chart drawing)) := by
  have hplace : ∃ name ∈ writes.map Prod.fst, l = name :: d := by
    refine Decidable.byContradiction fun hnone => hne ?_
    exact (h.writeAll_elsewhere hnames hwrites).2 l fun name hname heq => hnone ⟨name, hname, heq⟩
  obtain ⟨name, hname, rfl⟩ := hplace
  have hstored := (h.writeAll hnames hwrites).2.2 name
  cases hlast : lastWrite writes name with
  | none =>
      rw [hlast] at hstored
      exact absurd hstored hne
  | some content =>
      obtain ⟨drawing, rfl⟩ := hcharts _ (mem_of_lastWrite hlast)
      rw [hlast, storedLast] at hstored
      refine ⟨name, drawing, rfl, hname, ?_⟩
      rw [hstored]
      apply stored_of_ne_device
      intro hdevice
      rw [hstored, hdevice] at hne
      exact hne rfl

/-- **A run only writes charts.** Whether it succeeds or fails, and whatever call of a chart fails, a run over results
whose directory of charts has no links changes no entry but that it makes the directory of the charts where nothing was
and puts charts into it, under the file names of the algorithms that it finds and of the overlay if it is wanted. -/
theorem run_writes_charts (hplain : PlainPlots settings files) (surface : Surface) :
    let final := (run settings files surface).files
    final.IsWorld ∧ final.workingDirectory = files.workingDirectory ∧
      ∀ l, final.lookup l ≠ files.lookup l →
        ∃ r, files.resolve true settings.resultsDir = .ok (.occupied r .directory) ∧
          final.resolve true settings.plotsDir = .ok (.occupied ("plots" :: r) .directory) ∧
            ChartChange settings r files final l := by
  obtain ⟨o, stdout, hcourse⟩ := exists_course settings files surface
  rw [hcourse.run_eq]
  rcases hcourse.exists_writes with hsame |
    ⟨before, after, made, left, later, done, extra, hpaths, hmade, hhandled, hextra, hwrites⟩
  · rw [hsame]
    exact ⟨hplain.world, rfl, fun l hne => absurd rfl hne⟩
  obtain ⟨r, hdir⟩ := resolve_of_discover hpaths
  obtain ⟨hgrown, hchange⟩ := hplain.grown hdir hpaths hmade.ensured
  have hdescriptors := hhandled.exists_descriptor hgrown fun path hpath fs hfs =>
    hfs.openEntry_eq hplain.world hdir hpaths (List.mem_append_left _ hpath)
  have hwritten := charts_of_mem_writes hpaths hdescriptors hextra
  have hnames : ∀ w ∈ chartWrites done ++ extra, Path.IsName w.1 := fun w hw => (hwritten w hw).1.isName
  have hfinal := hgrown.writeAll hnames hwrites
  refine ⟨hfinal.world, hfinal.workingDirectory, ?_⟩
  intro l hne
  refine ⟨r, hdir, hfinal.plots.leads, ?_⟩
  by_cases hsame : o.files.lookup l = made.lookup l
  -- the change was made together with the directory of the charts
  · rw [hsame] at hne
    rcases hchange with rfl | ⟨hfree, rfl⟩
    · exact absurd rfl hne
    · have hl : l = "plots" :: r := by
        refine Decidable.byContradiction fun hl => hne ?_
        exact lookup_insert_ne files _ hl
      subst hl
      exact .directory hfree hfinal.directory
  · obtain ⟨name, drawing, rfl, hname, hchart⟩ :=
      chart_of_lookup_ne hgrown.plots hnames (fun w hw => (hwritten w hw).2) hwrites hsame
    obtain ⟨w, hw, rfl⟩ := List.mem_map.mp hname
    exact .chart (hwritten w hw).1 hchart

theorem isWorld_namesakes : namesakes.IsWorld := ⟨linkFree_namesakes.tree, by decide, by decide⟩

theorem resolve_namesakes : namesakes.resolve true namesakeSettings.resultsDir = .ok (.occupied ["r"] .directory) := rfl

theorem plainPlots_namesakes : PlainPlots namesakeSettings namesakes where
  world := isWorld_namesakes
  noLink r hdir target := by
    rw [resolve_namesakes] at hdir
    cases hdir
    nofun
  noLinks r hdir name target := by
    have hfree : namesakes.lookup ["plots", "r"] = none := rfl
    rw [resolve_namesakes] at hdir
    cases hdir
    rw [isWorld_namesakes.tree.lookup_eq_none hfree name]
    nofun

/-- A run that fails at its second chart leaves the counts as they are. -/
theorem run_writes_charts_namesakes :
    (run namesakeSettings namesakes (.faulty .present 2)).files.lookup ["b.bin", "r"] =
      some (.file (.bytes [1, 0, 0, 0])) := by
  obtain ⟨-, -, hchange⟩ := run_writes_charts plainPlots_namesakes (.faulty .present 2)
  refine Classical.byContradiction fun hne => ?_
  obtain ⟨r, hdir, -, hl⟩ := hchange ["b.bin", "r"] hne
  rw [resolve_namesakes] at hdir
  cases hdir
  exact absurd hl.suffix (by decide)

end Occupancy.Run
