import Occupancy.Proofs.Chart.Overlay
import Occupancy.Proofs.Histogram
import Occupancy.Proofs.Loading.Loaded
import Occupancy.Proofs.Loading.Verdict
import Occupancy.Run

/-! Algorithms reported on. Every report comes from an algorithm that is loaded, so its histogram has levels and counts no
more buckets than a descriptor can say there are. So there is a chart of it and a line for it in an overlay. -/

namespace Occupancy.Run

open Histogram

variable {files : FileSystem} {path : Path} {cap : Option UInt32} {a : Algorithm} {report : Report}
  {reports : List Report} {e : RunError}

/-- The report on an algorithm that is loaded. -/
def reportOn (cap : Option UInt32) (a : Algorithm) : Report := ⟨a.descriptor, .ofCounts a.counts cap⟩

theorem histogram_reportOn (h : a.counts ≠ []) (cap : Option UInt32) :
    (reportOn cap a).histogram = upTo (topOf cap a.counts).toNat a.counts := ofCounts_eq_upTo h cap

theorem analyze_eq_ok_iff :
    analyze files path cap = .ok report ↔ ∃ a, Loading.loadAlgorithm files path = .ok a ∧ report = reportOn cap a := by
  rw [analyze]
  cases Loading.loadAlgorithm files path with
  | error e => exact ⟨nofun, fun ⟨a, ha, _⟩ => nomatch ha⟩
  | ok a =>
      constructor
      · intro h
        cases h
        exact ⟨a, rfl, rfl⟩
      · rintro ⟨a', ha, rfl⟩
        cases ha
        rfl

/-- A report is on the descriptor that it was asked for. -/
theorem loadDescriptor_of_analyze (h : analyze files path cap = .ok report) :
    Loading.loadDescriptor files path = .ok report.descriptor := by
  obtain ⟨a, hload, rfl⟩ := analyze_eq_ok_iff.mp h
  obtain ⟨d, counts, hd, -, -, rfl⟩ := Loading.loadAlgorithm_eq_ok_iff.mp hload
  exact hd

/-- There is a report on every descriptor that is in order. -/
theorem analyze_of_valid {d : Descriptor} (h : Loading.Valid files path d) (cap : Option UInt32) :
    ∃ report, analyze files path cap = .ok report ∧ report.descriptor = d := by
  obtain ⟨a, hload, hdescriptor⟩ := h.exists_algorithm
  exact ⟨reportOn cap a, analyze_eq_ok_iff.mpr ⟨a, hload, rfl⟩, hdescriptor⟩

theorem valid_of_analyze {content : Content} (hopen : files.openEntry path = .ok (.file content))
    (h : analyze files path cap = .ok report) : Loading.Valid files path report.descriptor := by
  obtain ⟨a, hload, rfl⟩ := analyze_eq_ok_iff.mp h
  exact Loading.valid_of_loadAlgorithm hopen hload

theorem analyzeAll_cons_of_ok (h : analyze files path cap = .ok report) (paths : List Path) :
    analyzeAll files cap (path :: paths) = (analyzeAll files cap paths).map (report :: ·) := by
  rw [analyzeAll, h]

theorem analyzeAll_cons_of_error (h : analyze files path cap = .error e) (paths : List Path) :
    analyzeAll files cap (path :: paths) = .error e := by
  rw [analyzeAll, h]

/-- A histogram of counts has levels. -/
theorem frequencies_ne_nil (h : analyze files path cap = .ok report) : report.histogram.frequencies ≠ [] := by
  obtain ⟨a, hload, rfl⟩ := analyze_eq_ok_iff.mp h
  rw [histogram_reportOn (Loading.length_counts hload).2, ← List.length_pos_iff, length_upTo]
  exact Nat.succ_pos _

theorem exists_ofHistogram (h : report.histogram.frequencies ≠ []) (options : Chart.Options) :
    ∃ drawing, Chart.ofHistogram report.descriptor report.histogram options = .ok drawing := by
  rw [Chart.ofHistogram]
  cases htop : report.histogram.maxK with
  | none => exact absurd (maxK_eq_none_iff.mp htop) h
  | some top => exact ⟨_, rfl⟩

/-- There is a line for every report. -/
theorem hasLine_of_analyze (h : analyze files path cap = .ok report) (normalize : Bool) :
    Chart.HasLine normalize report.histogram := by
  obtain ⟨a, hload, rfl⟩ := analyze_eq_ok_iff.mp h
  obtain ⟨hlength, hcounts⟩ := Loading.length_counts hload
  rw [histogram_reportOn hcounts]
  refine Chart.hasLine_upTo ?_ normalize _
  rw [hlength]
  exact a.descriptor.numBuckets.toNat_lt

/-- Brought to their common levels, histograms keep their lines. -/
theorem hasLine_overlaySeries {normalize : Bool} (h : ∀ report ∈ reports, Chart.HasLine normalize report.histogram) :
    ∀ s ∈ overlaySeries reports, Chart.HasLine normalize s.histogram := by
  intro s hs
  rw [overlaySeries, ← List.map_uncurry_zip_eq_zipWith] at hs
  obtain ⟨⟨report, aligned⟩, hpair, rfl⟩ := List.mem_map.mp hs
  obtain ⟨full, hfull, hfront, hlevels⟩ := exists_of_mem_align (List.of_mem_zip hpair).2
  obtain ⟨source, hsource, rfl⟩ := List.mem_map.mp hfull
  have hline := h source hsource
  exact hline.of_prefix hfront (hlevels hline.levels)

/-- Reports on algorithms can be compared in an overlay. -/
theorem exists_overlay (hreports : reports ≠ []) (options : Chart.Options)
    (h : ∀ report ∈ reports, Chart.HasLine options.normalizeOverlay report.histogram) :
    ∃ drawing, Chart.ofSeries (overlaySeries reports) options = .ok drawing := by
  have hlength : (overlaySeries reports).length = reports.length := by
    rw [overlaySeries, List.length_zipWith, length_align, List.length_map, Nat.min_self]
  refine ⟨_, Chart.ofSeries_eq ?_ (hasLine_overlaySeries h)⟩
  rw [← List.length_pos_iff, hlength, List.length_pos_iff]
  exact hreports

end Occupancy.Run
