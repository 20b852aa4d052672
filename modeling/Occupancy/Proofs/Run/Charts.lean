import Occupancy.Proofs.Chart.FileName
import Occupancy.Proofs.Run.Course
import Occupancy.Proofs.Run.Discovery

/-! The charts that a run leaves. File names do not tell all algorithms apart: names that differ only in characters
that file names do not have share a file, and so do equal names, and an algorithm may have the file name of the
overlay. The chart written last is then the one that stays. So a run that succeeds keeps all its charts exactly when
the names of its algorithms are apart as file names, and the files are no devices, which keep nothing at all. -/

namespace Occupancy.Run

variable {settings : Settings} {files made left : FileSystem} {surface later : Surface} {paths : List Path}
  {done : List Finished} {extra : List (String × Content)} {d : Location}

/-- The directory of the charts is not there, or no entry in it is a link. -/
structure LinkFree (settings : Settings) (files : FileSystem) : Prop where
  tree : files.IsTree
  noLinks : ∀ d, files.resolve true settings.plotsDir = .ok (.occupied d .directory) →
    ∀ name target, files.lookup (name :: d) ≠ some (.link target)

theorem LinkFree.unlinked (h : LinkFree settings files) (hmade : Prepared settings files made) :
    ∃ d, FileSystem.Unlinked settings.plotsDir d made := by
  obtain ⟨d, hleads, hchange⟩ := FileSystem.ensureDirectory_of_ok (plotsDir_endsInSegment settings) hmade.ensured
  refine ⟨d, hleads, ?_⟩
  intro name target
  rcases hchange with rfl | ⟨hfree, rfl⟩
  · exact h.noLinks d hleads name target
  -- the directory is new, and in a tree nothing is below a place where nothing is
  · rw [FileSystem.lookup_insert_ne files _ (List.cons_ne_self name d), h.tree.lookup_eq_none hfree name]
    nofun

/-! ### What is written -/

/-- The overlay with the name of its file, if it is wanted. -/
inductive OverlayWrite (settings : Settings) (done : List Finished) : List (String × Content) → Prop
  | unwanted (hunwanted : settings.overlay = false) : OverlayWrite settings done []
  | wanted {drawing : Drawing Float} (hwanted : settings.overlay = true)
      (hdrawing : Chart.ofSeries (overlaySeries (done.map Finished.report)) settings.chart = .ok drawing) :
      OverlayWrite settings done [(Chart.overlayFileName, .chart drawing)]

def overlayLines (settings : Settings) : List ConsoleLine :=
  if settings.overlay then [.wroteOverlay (overlayPath settings)] else []

/-- What a run that succeeds has done: it has finished all algorithms, drawn the overlay if it is wanted, written
these charts and nothing else, and announced each of them. -/
structure Completed (settings : Settings) (files : FileSystem) (surface : Surface) (made : FileSystem)
    (done : List Finished) (extra : List (String × Content)) : Prop where
  handled : ∃ paths left later, discover files settings.resultsDir = .ok paths ∧
    Handled settings made surface paths done left later
  prepared : Prepared settings files made
  overlay : OverlayWrite settings done extra
  written : made.writeAll settings.plotsDir (chartWrites done ++ extra) = .ok (run settings files surface).files
  console : (run settings files surface).console = blocks settings done ++ overlayLines settings

theorem completed_of_ok {dir : Path} (hok : (run settings files surface).result = .ok dir) :
    ∃ made done extra, Completed settings files surface made done extra := by
  obtain ⟨o, stdout, hcourse⟩ := exists_course settings files surface
  have hrun := hcourse.run_eq
  rw [hrun] at hok
  cases hcourse with
  | undiscovered => cases hok
  | unprepared => cases hok
  | stopped => cases hok
  | overlayFailed => cases hok
  | @finished paths made left done later hpaths hmade hdone hunwanted =>
      refine ⟨made, done, [], ⟨paths, left, later, hpaths, hdone⟩, hmade, .unwanted hunwanted, ?_, ?_⟩
      · rw [List.append_nil, hrun]
        exact hdone.writeAll
      · rw [hrun, overlayLines, hunwanted, if_neg Bool.false_ne_true, List.append_nil]
  | @overlaid paths made left final done later last drawing hpaths hmade hdone hwanted hdraws =>
      refine ⟨made, done, [(Chart.overlayFileName, .chart drawing)], ⟨paths, left, later, hpaths, hdone⟩, hmade,
        .wanted hwanted hdraws.exists_chart, ?_, ?_⟩
      · rw [FileSystem.writeAll_append_of_ok hdone.writeAll, hrun]
        exact FileSystem.writeAll_cons_of_ok hdraws.wrote []
      · rw [hrun, overlayLines, hwanted, if_pos rfl]

/-! ### What stays -/

/-- No chart is lost: the charts and the overlay have files of their own, and at the end the file that was announced
for an algorithm holds the chart of this algorithm. -/
structure ChartsKept (settings : Settings) (done : List Finished) (final : FileSystem) : Prop where
  distinct : (done.map fun f => chartPath settings f.report.descriptor).Nodup
  apart : settings.overlay = true → ∀ f ∈ done, chartPath settings f.report.descriptor ≠ overlayPath settings
  kept : ∀ f ∈ done, final.openEntry (chartPath settings f.report.descriptor) = .ok (.file (.chart f.drawing))

/-- The names of the algorithms are different as file names, from each other and from that of the overlay. -/
structure NamesApart (settings : Settings) (done : List Finished) : Prop where
  distinct : (done.map fun f => Chart.safeName f.report.descriptor.algorithm).Nodup
  apart : settings.overlay = true → ∀ f ∈ done, Chart.safeName f.report.descriptor.algorithm ≠ "overlay"

theorem join_eq_iff {a b : String} (ha : Path.IsName a) (hb : Path.IsName b) :
    settings.plotsDir.join ⟨a⟩ = settings.plotsDir.join ⟨b⟩ ↔ a = b :=
  ⟨Path.join_injective _ ha.no_slash hb.no_slash, fun h => h ▸ rfl⟩

theorem chartPath_eq_iff {a b : Descriptor} :
    chartPath settings a = chartPath settings b ↔ Chart.safeName a.algorithm = Chart.safeName b.algorithm := by
  rw [chartPath, chartPath, join_eq_iff (Chart.isName_fileName _) (Chart.isName_fileName _), Chart.fileName_eq_iff]

theorem chartPath_eq_overlayPath_iff {a : Descriptor} :
    chartPath settings a = overlayPath settings ↔ Chart.safeName a.algorithm = "overlay" := by
  rw [chartPath, overlayPath, join_eq_iff (Chart.isName_fileName _) Chart.isName_overlayFileName,
    Chart.fileName_eq_overlayFileName_iff]

/-- Paths are apart exactly when names are. -/
theorem nodup_chartPath_iff :
    (done.map fun f => chartPath settings f.report.descriptor).Nodup ↔
      (done.map fun f => Chart.safeName f.report.descriptor.algorithm).Nodup := by
  simp only [List.Nodup, List.pairwise_map, ne_eq, chartPath_eq_iff]

theorem NamesApart.nodup_writes (h : NamesApart settings done) (hextra : OverlayWrite settings done extra) :
    ((chartWrites done ++ extra).map Prod.fst).Nodup := by
  have hcharts : ((chartWrites done).map Prod.fst).Nodup := by
    have hnames := h.distinct
    simp only [List.Nodup, List.pairwise_map, ne_eq, chartWrites, Chart.fileName_eq_iff] at hnames ⊢
    exact hnames
  cases hextra with
  | unwanted =>
      rw [List.append_nil]
      exact hcharts
  | wanted hwanted =>
      rw [List.map_append, List.nodup_append]
      refine ⟨hcharts, List.pairwise_singleton _ _, ?_⟩
      intro name hname other hother heq
      rw [chartWrites, List.map_map, List.mem_map] at hname
      obtain ⟨f, hf, rfl⟩ := hname
      cases List.mem_singleton.mp hother
      exact h.apart hwanted f hf (Chart.fileName_eq_overlayFileName_iff.mp heq)

theorem mem_writes_of_mem {f : Finished} (hf : f ∈ done) (extra : List (String × Content)) :
    (Chart.fileName f.report.descriptor.algorithm, .chart f.drawing) ∈ chartWrites done ++ extra :=
  List.mem_append_left _ (List.mem_map.mpr ⟨f, hf, rfl⟩)

theorem isName_of_mem_chartWrites (done : List Finished) : ∀ w ∈ chartWrites done, Path.IsName w.1 :=
  List.forall_mem_map.mpr fun _ _ => Chart.isName_fileName _

theorem isName_of_mem_writes (hextra : OverlayWrite settings done extra) :
    ∀ w ∈ chartWrites done ++ extra, Path.IsName w.1 := by
  intro w hw
  rcases List.mem_append.mp hw with hchart | hoverlay
  · exact isName_of_mem_chartWrites done w hchart
  · cases hextra with
    | unwanted => cases hoverlay
    | wanted =>
        cases List.mem_singleton.mp hoverlay
        exact Chart.isName_overlayFileName

theorem ChartsKept.namesApart (h : ChartsKept settings done left) : NamesApart settings done := by
  refine ⟨nodup_chartPath_iff.mp h.distinct, ?_⟩
  intro hwanted f hf hoverlay
  apply h.apart hwanted f hf
  exact chartPath_eq_overlayPath_iff.mpr hoverlay

section Written

variable (hunlinked : FileSystem.Unlinked settings.plotsDir d made) (hextra : OverlayWrite settings done extra)
  (hwritten : made.writeAll settings.plotsDir (chartWrites done ++ extra) = .ok left)

include hunlinked hextra hwritten

/-- What the file of a finished algorithm holds once everything is written: what was written to its name last. -/
theorem openEntry_written {f : Finished} (hf : f ∈ done) (entry : Entry) :
    left.openEntry (chartPath settings f.report.descriptor) = .ok entry ↔
      FileSystem.storedLast (made.lookup (Chart.fileName f.report.descriptor.algorithm :: d))
        (FileSystem.lastWrite (chartWrites done ++ extra) (Chart.fileName f.report.descriptor.algorithm))
          = some entry := by
  obtain ⟨hlast, hfits, hlookup⟩ := hunlinked.writeAll (isName_of_mem_writes hextra) hwritten
  rw [← hlookup]
  exact hlast.openEntry_join (Chart.isName_fileName _) (hfits (_, _) (mem_writes_of_mem hf extra))

theorem openEntry_made {f : Finished} (hf : f ∈ done) (entry : Entry) :
    made.openEntry (chartPath settings f.report.descriptor) = .ok entry ↔
      made.lookup (Chart.fileName f.report.descriptor.algorithm :: d) = some entry := by
  obtain ⟨-, hfits, -⟩ := hunlinked.writeAll (isName_of_mem_writes hextra) hwritten
  exact hunlinked.openEntry_join (Chart.isName_fileName _) (hfits (_, _) (mem_writes_of_mem hf extra))

/-- With names apart, each name is written to once, so what was written last is the algorithm's own chart. -/
theorem chartsKept_of_namesApart (h : NamesApart settings done)
    (hdevice : ∀ f ∈ done, made.openEntry (chartPath settings f.report.descriptor) ≠ .ok .device) :
    ChartsKept settings done left := by
  refine ⟨nodup_chartPath_iff.mpr h.distinct, ?_, ?_⟩
  · intro hwanted f hf hoverlay
    apply h.apart hwanted f hf
    exact chartPath_eq_overlayPath_iff.mp hoverlay
  · intro f hf
    have honce := h.nodup_writes hextra
    rw [openEntry_written hunlinked hextra hwritten hf,
      FileSystem.lastWrite_of_mem honce (mem_writes_of_mem hf extra)]
    apply FileSystem.stored_of_ne_device
    intro hlookup
    apply hdevice f hf
    exact (openEntry_made hunlinked hextra hwritten hf _).mpr hlookup

/-- Where a device is, there is no chart afterwards. -/
theorem not_device_of_chartsKept (h : ChartsKept settings done left) :
    ∀ f ∈ done, made.openEntry (chartPath settings f.report.descriptor) ≠ .ok .device := by
  intro f hf hdevice
  have hstored := (openEntry_written hunlinked hextra hwritten hf _).mp (h.kept f hf)
  rw [(openEntry_made hunlinked hextra hwritten hf _).mp hdevice] at hstored
  cases hlast : FileSystem.lastWrite (chartWrites done ++ extra) (Chart.fileName f.report.descriptor.algorithm) with
  | none => rw [hlast] at hstored; cases hstored
  | some content => rw [hlast] at hstored; cases hstored

end Written

/-- **Which runs keep their charts.** Without links in the way, a run that succeeds keeps the charts of all its
algorithms if and only if their names are apart as file names and none of the files is a device. -/
theorem charts_kept_iff (hfree : LinkFree settings files) {dir : Path}
    (hok : (run settings files surface).result = .ok dir) :
    (∃ made done extra, Completed settings files surface made done extra) ∧
      ∀ made done extra, Completed settings files surface made done extra →
        (ChartsKept settings done (run settings files surface).files ↔ NamesApart settings done ∧
          ∀ f ∈ done, made.openEntry (chartPath settings f.report.descriptor) ≠ .ok .device) := by
  refine ⟨completed_of_ok hok, ?_⟩
  intro made done extra hcompleted
  obtain ⟨d, hunlinked⟩ := hfree.unlinked hcompleted.prepared
  have hextra := hcompleted.overlay
  have hwritten := hcompleted.written
  constructor
  · intro hkept
    exact ⟨hkept.namesApart, not_device_of_chartsKept hunlinked hextra hwritten hkept⟩
  · rintro ⟨hnames, hdevice⟩
    exact chartsKept_of_namesApart hunlinked hextra hwritten hnames hdevice

/-! ### Two algorithms that share a file -/

/-- The paths of the charts that are announced on the console. -/
def announced (console : List ConsoleLine) : List Path :=
  console.filterMap fun
    | .wroteChart path => some path
    | _ => none

theorem announced_append (first second : List ConsoleLine) :
    announced (first ++ second) = announced first ++ announced second := List.filterMap_append

theorem announced_block (report : Report) :
    announced (block settings report) = [chartPath settings report.descriptor] := by
  rw [block, Report.lines]
  simp only [announced_append]
  cases report.descriptor.isInt32 <;> cases settings.quiet <;> rfl

theorem announced_blocks (settings : Settings) (done : List Finished) :
    announced (blocks settings done) = done.map fun f => chartPath settings f.report.descriptor := by
  induction done with
  | nil => rfl
  | cons f done ih =>
      rw [blocks, List.flatMap_cons, announced_append, announced_block]
      exact congrArg (_ :: ·) ih

theorem announced_overlayLines (settings : Settings) : announced (overlayLines settings) = [] := by
  rw [overlayLines]
  cases settings.overlay <;> rfl

/-- What a run that succeeds announces are the files of its charts, in order. -/
theorem Completed.announced_eq (h : Completed settings files surface made done extra) :
    announced (run settings files surface).console = done.map fun f => chartPath settings f.report.descriptor := by
  rw [h.console, announced_append, announced_blocks, announced_overlayLines, List.append_nil]

def namesakeDescriptor (algorithm countsFile : String) : Entry :=
  .file (.bytes (Descriptor.text ⟨algorithm, 1, 1, countsFile, "int32", none⟩).toByteArray.toList)

/-- Results of two algorithms whose names differ in a character that file names do not have. -/
def namesakes : FileSystem where
  entries :=
    [(["r"], .directory),
     (["a.meta.json", "r"], namesakeDescriptor "x/y" "a.bin"),
     (["a.bin", "r"], .file (.bytes [0, 0, 0, 0])),
     (["b.meta.json", "r"], namesakeDescriptor "x_y" "b.bin"),
     (["b.bin", "r"], .file (.bytes [1, 0, 0, 0]))]
  workingDirectory := []

def namesakeSettings : Settings := { Settings.ofDirectory ⟨"r"⟩ with quiet := true }

theorem discover_namesakes :
    discover namesakes namesakeSettings.resultsDir = .ok [⟨"r/a.meta.json"⟩, ⟨"r/b.meta.json"⟩] := by
  have hnames : descriptorNames (namesakes.children ["r"]) = ["a.meta.json", "b.meta.json"] :=
    descriptorNames_eq (by decide +kernel) (by decide)
  refine discover_eq_ok_iff.mpr ⟨["r"], rfl, ?_, ?_⟩ <;> rw [hnames]
  · exact List.cons_ne_nil _ _
  · rfl

theorem run_namesakes :
    run namesakeSettings namesakes .sound =
      chartAll namesakeSettings (namesakes.insert ["plots", "r"] .directory) .sound
        [⟨"r/a.meta.json"⟩, ⟨"r/b.meta.json"⟩] := by
  rw [run, discover_namesakes]
  rfl

theorem linkFree_namesakes : LinkFree namesakeSettings namesakes where
  tree := by
    refine List.forall_mem_cons.mpr ⟨rfl, List.forall_mem_cons.mpr ⟨rfl, List.forall_mem_cons.mpr ⟨rfl,
      List.forall_mem_cons.mpr ⟨rfl, List.forall_mem_cons.mpr ⟨rfl, ?_⟩⟩⟩⟩⟩
    nofun
  noLinks d hleads := by
    have hfree : namesakes.resolve true namesakeSettings.plotsDir = .ok (.free ["plots", "r"]) := rfl
    rw [hfree] at hleads
    cases hleads

theorem outcome_namesakes :
    (run namesakeSettings namesakes .sound).result.isOk = true ∧
      announced (run namesakeSettings namesakes .sound).console =
        [⟨"r/plots/hist_x_y.png"⟩, ⟨"r/plots/hist_x_y.png"⟩] := by
  generalize hrun : run namesakeSettings namesakes .sound = o
  have houtcome : (o.result.isOk, announced o.console) =
      (true, [⟨"r/plots/hist_x_y.png"⟩, ⟨"r/plots/hist_x_y.png"⟩]) := by
    rw [← hrun, run_namesakes]
    decide +kernel
  exact Prod.mk.inj houtcome

theorem exists_ok_of_isOk {result : Except RunError Path} (h : result.isOk = true) : ∃ dir, result = .ok dir := by
  cases result with
  | error e => cases h
  | ok dir => exact ⟨dir, rfl⟩

theorem exists_ok_namesakes : ∃ dir, (run namesakeSettings namesakes .sound).result = .ok dir :=
  exists_ok_of_isOk outcome_namesakes.1

theorem charts_kept_iff_namesakes :
    (∃ made done extra, Completed namesakeSettings namesakes .sound made done extra) ∧
      ∀ made done extra, Completed namesakeSettings namesakes .sound made done extra →
        (ChartsKept namesakeSettings done (run namesakeSettings namesakes .sound).files ↔
          NamesApart namesakeSettings done ∧
            ∀ f ∈ done, made.openEntry (chartPath namesakeSettings f.report.descriptor) ≠ .ok .device) := by
  obtain ⟨dir, hok⟩ := exists_ok_namesakes
  exact charts_kept_iff linkFree_namesakes hok

/-- A run can succeed without links in the way and lose a chart all the same. -/
theorem not_all_charts_kept :
    ¬∀ (settings : Settings) (files : FileSystem) (surface : Surface) (dir : Path), LinkFree settings files →
      (run settings files surface).result = .ok dir →
        ∀ made done extra, Completed settings files surface made done extra →
          ChartsKept settings done (run settings files surface).files := by
  intro hall
  obtain ⟨dir, hok⟩ := exists_ok_namesakes
  obtain ⟨made, done, extra, hcompleted⟩ := completed_of_ok hok
  have hdistinct := (hall _ _ _ dir linkFree_namesakes hok made done extra hcompleted).distinct
  rw [← hcompleted.announced_eq, outcome_namesakes.2] at hdistinct
  exact absurd hdistinct (by decide)

end Occupancy.Run
