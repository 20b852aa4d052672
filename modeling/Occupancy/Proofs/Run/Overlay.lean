import Occupancy.Proofs.Loading.Verdict
import Occupancy.Proofs.Run.Analysis
import Occupancy.Proofs.Run.Charts
import Occupancy.Proofs.Run.Discovery

/-! The overlay of a run. It is made of all algorithms, each loaded when its turn came, and it is written last, so that
its file holds it at the end. Its lines are those of the counts that were loaded, brought to the levels that all of them
have. -/

namespace Occupancy.Run

open FileSystem Histogram

variable {settings : Settings} {files made left final : FileSystem} {surface later : Surface} {paths : List Path}
  {algorithms : List Algorithm} {done : List Finished} {drawing : Drawing Float} {top : UInt32} {d l : Location} {dir : Path}

/-! ### Loading in turn -/

/-- Algorithms loaded one after the other, each from the files with the charts of those before it. -/
inductive LoadedInTurn (settings : Settings) : FileSystem → List Path → List Algorithm → FileSystem → Prop
  | none {files : FileSystem} : LoadedInTurn settings files [] [] files
  | next {files between left : FileSystem} {path : Path} {paths : List Path} {a : Algorithm}
      {algorithms : List Algorithm} {drawing : Drawing Float} (hload : Loading.loadAlgorithm files path = .ok a)
      (hdrawing : Chart.ofHistogram a.descriptor (.ofCounts a.counts settings.maxK) settings.chart = .ok drawing)
      (hwrite : files.write (chartPath settings a.descriptor) (.chart drawing) = .ok between)
      (hrest : LoadedInTurn settings between paths algorithms left) :
      LoadedInTurn settings files (path :: paths) (a :: algorithms) left

theorem Handled.exists_loadedInTurn (h : Handled settings files surface paths done left later) :
    ∃ algorithms, LoadedInTurn settings files paths algorithms left ∧
      done.map Finished.report = algorithms.map (reportOn settings.maxK) := by
  induction h with
  | none => exact ⟨[], .none, rfl⟩
  | @next files between left surface next later path paths f done hfirst hrest ih =>
      obtain ⟨algorithms, hloaded, hreports⟩ := ih
      obtain ⟨a, hload, hreport⟩ := analyze_eq_ok_iff.mp hfirst.report
      obtain ⟨hdrawing, -, hwrite⟩ := hfirst.drawn
      rw [hreport] at hdrawing hwrite
      refine ⟨a :: algorithms, .next hload hdrawing hwrite hloaded, ?_⟩
      rw [List.map_cons, List.map_cons, hreports, hreport]

theorem LoadedInTurn.length_eq (h : LoadedInTurn settings files paths algorithms left) :
    algorithms.length = paths.length := by
  induction h with
  | none => rfl
  | next _ _ _ _ ih => rw [List.length_cons, List.length_cons, ih]

/-- Algorithms that are loaded have buckets, and a count for each of them. -/
theorem LoadedInTurn.length_counts (h : LoadedInTurn settings files paths algorithms left) :
    ∀ a ∈ algorithms, a.counts.length = a.descriptor.numBuckets.toNat ∧ a.counts ≠ [] := by
  induction h with
  | none => exact List.forall_mem_nil _
  | next hload _ _ _ ih => exact List.forall_mem_cons.mpr ⟨Loading.length_counts hload, ih⟩

/-- There are algorithms if there are descriptors, so their largest levels have a minimum under any cap. -/
theorem LoadedInTurn.exists_top (h : LoadedInTurn settings files paths algorithms left) (hpaths : paths ≠ [])
    (cap : Option UInt32) : ∃ top, (algorithms.map fun a => topOf cap a.counts).min? = some top := by
  apply Option.isSome_iff_exists.mp
  apply List.isSome_min?_of_ne_nil
  rw [← List.length_pos_iff, List.length_map, h.length_eq, List.length_pos_iff]
  exact hpaths

/-- The charts that are written between the algorithms keep their directory without links. -/
theorem LoadedInTurn.unlinked (h : LoadedInTurn settings files paths algorithms left)
    (hunlinked : Unlinked settings.plotsDir d files) : Unlinked settings.plotsDir d left := by
  induction h with
  | none => exact hunlinked
  | next _ _ hwrite _ ih => exact ih (hunlinked.of_written (hunlinked.written (Chart.isName_fileName _) hwrite).2)

/-- Writing charts makes no devices. -/
theorem LoadedInTurn.device (h : LoadedInTurn settings files paths algorithms left)
    (hunlinked : Unlinked settings.plotsDir d files) (hdevice : left.lookup l = some .device) :
    files.lookup l = some .device := by
  induction h with
  | none => exact hdevice
  | next _ _ hwrite _ ih =>
      have hwritten := (hunlinked.written (Chart.isName_fileName _) hwrite).2
      exact hwritten.device (ih (hunlinked.of_written hwritten) hdevice)

/-! ### The overlay that is drawn -/

/-- An overlay that a run has drawn: its algorithms have been loaded in turn from the descriptors that were found, and
the chart that compares them has been written last. -/
structure Overlaid (settings : Settings) (files : FileSystem) (paths : List Path) (algorithms : List Algorithm)
    (drawing : Drawing Float) (final : FileSystem) : Prop where
  discovered : discover files settings.resultsDir = .ok paths
  loaded : ∃ made left, Prepared settings files made ∧ LoadedInTurn settings made paths algorithms left ∧
    left.write (overlayPath settings) (.chart drawing) = .ok final
  drawn : Chart.ofSeries (overlaySeries (algorithms.map (reportOn settings.maxK))) settings.chart = .ok drawing

/-- A run that succeeds has reported on the algorithms and drawn the overlay that is wanted. -/
theorem exists_overlaid (hwanted : settings.overlay = true) (hok : (run settings files surface).result = .ok dir) :
    ∃ paths algorithms drawing, Overlaid settings files paths algorithms drawing (run settings files surface).files ∧
      (run settings files surface).console =
        (algorithms.map (reportOn settings.maxK)).flatMap (block settings) ++ [.wroteOverlay (overlayPath settings)] := by
  obtain ⟨o, stdout, hcourse⟩ := exists_course settings files surface
  rw [hcourse.run_eq] at hok ⊢
  cases hcourse with
  | undiscovered => cases hok
  | unprepared => cases hok
  | stopped => cases hok
  | overlayFailed => cases hok
  | finished _ _ _ hunwanted =>
      rw [hwanted] at hunwanted
      cases hunwanted
  | @overlaid paths made left final done later last drawing hpaths hmade hdone _ hdraws =>
      obtain ⟨algorithms, hloaded, hreports⟩ := hdone.exists_loadedInTurn
      have hdrawn := hdraws.exists_chart
      rw [hreports] at hdrawn
      refine ⟨paths, algorithms, drawing, ⟨hpaths, ⟨made, left, hmade, hloaded, hdraws.wrote⟩, hdrawn⟩, ?_⟩
      rw [← hreports, List.flatMap_map]
      rfl

theorem Overlaid.length_counts (h : Overlaid settings files paths algorithms drawing final) :
    ∀ a ∈ algorithms, a.counts.length = a.descriptor.numBuckets.toNat ∧ a.counts ≠ [] := by
  obtain ⟨_, _, _, hloaded, _⟩ := h.loaded
  exact hloaded.length_counts

/-- The largest levels of the algorithms of an overlay have a minimum. -/
theorem Overlaid.exists_top (h : Overlaid settings files paths algorithms drawing final) :
    ∃ top, (algorithms.map fun a => topOf settings.maxK a.counts).min? = some top := by
  obtain ⟨_, _, _, hloaded, _⟩ := h.loaded
  exact hloaded.exists_top (ne_nil_of_discover h.discovered) settings.maxK

/-- The histograms of the reports, aligned, are those of the counts up to the smallest of the largest levels. -/
theorem align_reportOn {cap : Option UInt32} (hcounts : ∀ a ∈ algorithms, a.counts ≠ [])
    (htop : (algorithms.map fun a => topOf cap a.counts).min? = some top) :
    align ((algorithms.map (reportOn cap)).map Report.histogram) = algorithms.map fun a => upTo top.toNat a.counts := by
  rw [List.map_map]
  exact align_ofCounts (fun _ => cap) hcounts htop

/-- The series of an overlay are the histograms of the counts up to the smallest of the largest levels. -/
theorem overlaySeries_eq {cap : Option UInt32} (hcounts : ∀ a ∈ algorithms, a.counts ≠ [])
    (htop : (algorithms.map fun a => topOf cap a.counts).min? = some top) :
    overlaySeries (algorithms.map (reportOn cap)) =
      algorithms.map fun a => ⟨a.descriptor.algorithm, upTo top.toNat a.counts⟩ := by
  rw [overlaySeries, align_reportOn hcounts htop, List.zipWith_map, List.zipWith_self]
  rfl

/-- The overlay compares the tables of buckets of the algorithms. -/
theorem Overlaid.compares (h : Overlaid settings files paths algorithms drawing final)
    (htop : (algorithms.map fun a => topOf settings.maxK a.counts).min? = some top) :
    Chart.Compares settings.chart (algorithms.map fun a => (a.descriptor.algorithm, a.counts)) top drawing := by
  apply Chart.compares_of_ofSeries
  · rw [List.forall_mem_map]
    intro a ha
    rw [(h.length_counts a ha).1]
    exact a.descriptor.numBuckets.toNat_lt
  · rw [List.map_map]
    have hdrawn := h.drawn
    rw [overlaySeries_eq (fun a ha => (h.length_counts a ha).2) htop] at hdrawn
    exact hdrawn

/-! ### The file of the overlay -/

/-- Making the directory of the charts makes no device in it. -/
theorem Prepared.openEntry_device (hmade : Prepared settings files made) (hfree : LinkFree settings files) {name : String}
    (hname : Path.IsName name) (hunlinked : Unlinked settings.plotsDir d made) (hfits : Fits settings.plotsDir name)
    (hdevice : made.lookup (name :: d) = some .device) :
    files.openEntry (settings.plotsDir.join ⟨name⟩) = .ok .device := by
  obtain ⟨l, hleads, hchange⟩ := ensureDirectory_of_ok (plotsDir_endsInSegment settings) hmade.ensured
  rw [hunlinked.leads] at hleads
  cases hleads
  rcases hchange with rfl | ⟨hnone, rfl⟩
  · exact (hunlinked.openEntry_join hname hfits).mpr hdevice
  · rw [lookup_insert_ne files _ (List.cons_ne_self name d), hfree.tree.lookup_eq_none hnone name] at hdevice
    cases hdevice

/-- Once the overlay is written its file holds it, unless a device was in its place. -/
theorem Overlaid.openEntry (h : Overlaid settings files paths algorithms drawing final) (hfree : LinkFree settings files)
    (hdevice : files.openEntry (overlayPath settings) ≠ .ok .device) :
    final.openEntry (overlayPath settings) = .ok (.file (.chart drawing)) := by
  obtain ⟨made, left, hmade, hloaded, hwrite⟩ := h.loaded
  obtain ⟨d, hunlinked⟩ := hfree.unlinked hmade
  have hleft := hloaded.unlinked hunlinked
  obtain ⟨hfits, hwritten⟩ := hleft.written Chart.isName_overlayFileName hwrite
  rw [overlayPath, (hleft.of_written hwritten).openEntry_join Chart.isName_overlayFileName hfits, hwritten.entry]
  apply stored_of_ne_device
  -- a device in the place of the overlay was there before the first chart, and before the directory of the charts
  intro hlookup
  apply hdevice
  exact hmade.openEntry_device hfree Chart.isName_overlayFileName hunlinked hfits (hloaded.device hunlinked hlookup)

/-- **What the overlay of a run shows.** Without links in the way, the overlay of a run that succeeds has a line for each
descriptor, in the order of their names, of the counts that were loaded for it, up to the smallest of the largest levels;
and its file holds it, unless a device is in its place. -/
theorem overlay_compares (hfree : LinkFree settings files) (hwanted : settings.overlay = true)
    (hok : (run settings files surface).result = .ok dir) :
    ∃ paths algorithms drawing top,
      Overlaid settings files paths algorithms drawing (run settings files surface).files ∧
      (∃ names : List String, paths = names.map (fun name => settings.resultsDir.join ⟨name⟩) ∧ names.Pairwise (· ≤ ·)) ∧
      (algorithms.map fun a => topOf settings.maxK a.counts).min? = some top ∧
      Chart.Compares settings.chart (algorithms.map fun a => (a.descriptor.algorithm, a.counts)) top drawing ∧
      (files.openEntry (overlayPath settings) ≠ .ok .device →
        (run settings files surface).files.openEntry (overlayPath settings) = .ok (.file (.chart drawing))) := by
  obtain ⟨paths, algorithms, drawing, h, -⟩ := exists_overlaid hwanted hok
  obtain ⟨top, htop⟩ := h.exists_top
  exact ⟨paths, algorithms, drawing, top, h, exists_sorted_of_discover h.discovered, htop, h.compares htop,
    h.openEntry hfree⟩

/-! ### Levels that are not shown -/

/-- Two buckets, one of them empty and one with five items. -/
def twoBuckets : Algorithm := ⟨⟨"a", 2, 5, "a.bin", "int32", none⟩, [0, 5], ⟨"r/a.bin"⟩⟩

/-- Results of one algorithm. -/
def soleResults : FileSystem where
  entries :=
    [(["r"], .directory),
     (["a.meta.json", "r"], .file (.bytes twoBuckets.descriptor.text.toByteArray.toList)),
     (["a.bin", "r"], .file (.bytes [0, 0, 0, 0, 5, 0, 0, 0]))]
  workingDirectory := []

/-- Only empty buckets are shown. -/
def cappedSettings : Settings := { Settings.ofDirectory ⟨"r"⟩ with maxK := some 0, overlay := true, quiet := true }

theorem discover_sole : discover soleResults cappedSettings.resultsDir = .ok [⟨"r/a.meta.json"⟩] := by
  have hnames : descriptorNames (soleResults.children ["r"]) = ["a.meta.json"] :=
    descriptorNames_eq (by decide +kernel) (List.pairwise_singleton _ _)
  refine discover_eq_ok_iff.mpr ⟨["r"], rfl, ?_, ?_⟩ <;> rw [hnames]
  · exact List.cons_ne_nil _ _
  · rfl

theorem ensureDirectory_sole :
    soleResults.ensureDirectory cappedSettings.plotsDir = .ok (soleResults.insert ["plots", "r"] .directory) := rfl

theorem loadAlgorithm_twoBuckets
    (hopen : files.openEntry ⟨"r/a.meta.json"⟩ = .ok (.file (.bytes twoBuckets.descriptor.text.toByteArray.toList)))
    (hread : Loading.readCounts files ⟨"r/a.bin"⟩ twoBuckets.descriptor.byteOrder = .ok [0, 5]) :
    Loading.loadAlgorithm files ⟨"r/a.meta.json"⟩ = .ok twoBuckets := by
  have htext : Descriptor.read (Content.bytes twoBuckets.descriptor.text.toByteArray.toList).toBytes =
      .ok twoBuckets.descriptor := Descriptor.read_text _
  refine Loading.loadAlgorithm_eq_ok_iff.mpr ⟨twoBuckets.descriptor, [0, 5], ?_, hread, rfl, rfl⟩
  rw [Loading.loadDescriptor_eq hopen, htext]
  rfl

theorem loadAlgorithm_sole :
    Loading.loadAlgorithm (soleResults.insert ["plots", "r"] .directory) ⟨"r/a.meta.json"⟩ = .ok twoBuckets :=
  loadAlgorithm_twoBuckets rfl rfl

theorem exists_ok_sole : ∃ dir, (run cappedSettings soleResults .sound).result = .ok dir := by
  apply exists_ok_of_isOk
  rw [run, discover_sole, ensureDirectory_sole]
  simp only [chartAll, reportAll, reportOne, analyze, loadAlgorithm_sole]
  decide +kernel

theorem linkFree_sole : LinkFree cappedSettings soleResults where
  tree := List.forall_mem_cons.mpr ⟨rfl, List.forall_mem_cons.mpr ⟨rfl, List.forall_mem_cons.mpr ⟨rfl, List.forall_mem_nil _⟩⟩⟩
  noLinks d hleads := by
    have hfree : soleResults.resolve true cappedSettings.plotsDir = .ok (.free ["plots", "r"]) := rfl
    rw [hfree] at hleads
    cases hleads

theorem Overlaid.eq_twoBuckets (h : Overlaid cappedSettings soleResults paths algorithms drawing final) :
    algorithms = [twoBuckets] := by
  obtain ⟨made, left, hmade, hloaded, -⟩ := h.loaded
  have hpaths := h.discovered
  have hensured := hmade.ensured
  rw [discover_sole] at hpaths
  rw [ensureDirectory_sole] at hensured
  cases hpaths
  cases hensured
  cases hloaded with
  | next hload _ _ hrest =>
      rw [loadAlgorithm_sole] at hload
      cases hload
      cases hrest
      rfl

theorem overlay_compares_sole :
    ∃ drawing, Chart.Compares cappedSettings.chart [("a", [0, 5])] 0 drawing ∧
      (run cappedSettings soleResults .sound).files.openEntry ⟨"r/plots/hist_overlay.png"⟩ =
        .ok (.file (.chart drawing)) := by
  obtain ⟨dir, hok⟩ := exists_ok_sole
  obtain ⟨paths, algorithms, drawing, top, hoverlaid, -, htop, hcompares, hfile⟩ := overlay_compares linkFree_sole rfl hok
  cases hoverlaid.eq_twoBuckets
  cases htop
  exact ⟨drawing, hcompares, hfile (by rintro hdevice; cases hdevice)⟩

end Occupancy.Run
