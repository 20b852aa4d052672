import Occupancy.Proofs.Run.Overlay

/-! There is always something to draw. A descriptor that is loaded has buckets and a count for each of them, so its
histogram has at least the level zero under any cap, and histograms that are brought to their common levels keep it. So a
run may fail for many reasons, but it never comes to a chart, the overlay included, that there is no data for. -/

namespace Occupancy.Run

open Histogram

variable {settings : Settings} {files left : FileSystem} {surface later : Surface} {path : Path} {paths : List Path}
  {cap : Option UInt32} {report : Report} {reports : List Report} {done : List Finished} {algorithms : List Algorithm}
  {e : RunError}

/-! ### One algorithm -/

theorem exists_loading_of_analyze (h : analyze files path cap = .error e) : ∃ cause, e = .loading cause := by
  rw [analyze] at h
  split at h
  · cases h
    exact ⟨_, rfl⟩
  · cases h

/-- The largest level of a report is the largest count, or the cap if that is smaller. -/
theorem maxK_of_analyze (h : analyze files path cap = .ok report) :
    ∃ a largest, Loading.loadAlgorithm files path = .ok a ∧ a.counts.max? = some largest ∧
      report.histogram.maxK = some (cap.elim largest (min · largest)) := by
  obtain ⟨a, hload, rfl⟩ := analyze_eq_ok_iff.mp h
  have hcounts := (Loading.length_counts hload).2
  obtain ⟨largest, hlargest⟩ := Option.isSome_iff_exists.mp (List.isSome_max?_of_ne_nil hcounts)
  refine ⟨a, largest, hload, hlargest, ?_⟩
  rw [histogram_reportOn hcounts, maxK_upTo, topOf, hlargest]
  cases cap <;> rfl

/-- A descriptor may fail to be loaded or its chart to be drawn, but there is data for its chart. -/
theorem Fails.not_isOfData {printed : List ConsoleLine} {text : String} {last : Surface} {cause : ChartError}
    (h : Fails settings files surface path printed text (.charting cause) last) : ¬Chart.IsOfData cause := by
  cases h with
  | loading herror =>
      obtain ⟨_, heq⟩ := exists_loading_of_analyze herror
      cases heq
  | charting hreport hfailed =>
      obtain ⟨drawing, hdrawing⟩ := exists_ofHistogram (frequencies_ne_nil hreport) settings.chart
      rw [Chart.drawHistogram, hdrawing] at hfailed
      exact Chart.not_isOfData_of_drawIfAny hfailed

/-! ### All algorithms -/

theorem Handled.hasLine (h : Handled settings files surface paths done left later) (normalize : Bool) :
    ∀ report ∈ done.map Finished.report, Chart.HasLine normalize report.histogram := by
  induction h with
  | none => exact List.forall_mem_nil _
  | next hfirst _ ih => exact List.forall_mem_cons.mpr ⟨hasLine_of_analyze hfirst.report normalize, ih⟩

theorem Handled.reports_ne_nil (h : Handled settings files surface paths done left later) (hpaths : paths ≠ []) :
    done.map Finished.report ≠ [] := by
  cases h with
  | none => exact absurd rfl hpaths
  | next => exact List.cons_ne_nil _ _

/-- Descriptors that have been handled can be compared, so only drawing the comparison can fail. -/
theorem Handled.not_isOfData (h : Handled settings files surface paths done left later) (hpaths : paths ≠ [])
    {last : Surface} {cause : ChartError}
    (hfailed : Chart.drawOverlay left later (overlaySeries (done.map Finished.report)) settings.chart settings.plotsDir =
      ⟨left, last, .error cause⟩) : ¬Chart.IsOfData cause := by
  obtain ⟨drawing, hdrawing⟩ := exists_overlay (h.reports_ne_nil hpaths) settings.chart (h.hasLine _)
  rw [Chart.drawOverlay, hdrawing] at hfailed
  exact Chart.not_isOfData_of_drawIfAny hfailed

/-- Reports that can be compared. Brought to their common levels their histograms have all the same number of levels, which
is not zero, and these histograms are those of the series, of which there are as many as reports. -/
structure Comparable (reports : List Report) : Prop where
  nonempty : overlaySeries reports ≠ []
  length : (overlaySeries reports).length = reports.length
  histograms : (overlaySeries reports).map Chart.Series.histogram = align (reports.map Report.histogram)
  levels : ∃ top, ∀ h ∈ align (reports.map Report.histogram), h.frequencies.length = top + 1

/-- Whenever there is a report on every descriptor, the reports can be compared. -/
theorem comparable_of_reportAll (hpaths : paths ≠ [])
    (h : (reportAll settings files surface paths).result = .ok reports) : Comparable reports := by
  obtain ⟨done, rfl, hdone⟩ := handled_of_ok h
  obtain ⟨algorithms, hloaded, hreports⟩ := hdone.exists_loadedInTurn
  obtain ⟨top, htop⟩ := hloaded.exists_top hpaths settings.maxK
  have hcounts : ∀ a ∈ algorithms, a.counts ≠ [] := fun a ha => (hloaded.length_counts a ha).2
  have halign := align_reportOn hcounts htop
  have hseries := overlaySeries_eq hcounts htop
  rw [hreports]
  refine ⟨?_, ?_, ?_, top.toNat, ?_⟩
  · rw [hseries, ne_eq, List.map_eq_nil_iff, ← List.length_eq_zero_iff, hloaded.length_eq, List.length_eq_zero_iff]
    exact hpaths
  · rw [hseries, List.length_map, List.length_map]
  · rw [hseries, halign, List.map_map]
    rfl
  · rw [halign, List.forall_mem_map]
    exact fun a _ => length_upTo _ _

/-! ### The whole run -/

theorem run_not_isOfData {cause : ChartError} (hresult : (run settings files surface).result = .error (.charting cause)) :
    ¬Chart.IsOfData cause := by
  obtain ⟨o, stdout, hcourse⟩ := exists_course settings files surface
  rw [hcourse.run_eq] at hresult
  cases hcourse with
  | undiscovered herror =>
      cases hresult
      rcases discover_eq_error herror with heq | heq | ⟨_, heq⟩ <;> cases heq
  | unprepared => cases hresult
  | stopped _ _ _ hfails =>
      cases hresult
      exact hfails.not_isOfData
  | overlayFailed hpaths _ hdone _ hfailed =>
      cases hresult
      exact hdone.not_isOfData (ne_nil_of_discover hpaths) hfailed
  | finished => cases hresult
  | overlaid => cases hresult

/-- A descriptor cannot say that there are more buckets than 64 bits can count, so a run never ends in the middle of a
total. -/
theorem run_ne_overflow (settings : Settings) (files : FileSystem) (surface : Surface) (cause : Overflow) :
    (run settings files surface).result ≠ .error (.charting (.overflow cause)) :=
  fun hresult => run_not_isOfData hresult trivial

/-- **A run never lacks data.** No run fails because there is nothing to draw. Every report has a histogram with levels, of
which the largest is the largest count or the cap if that is smaller; and whenever a run comes to its overlay, the reports
can be compared. -/
theorem run_finds_data (settings : Settings) (files : FileSystem) (surface : Surface) :
    (∀ reason, (run settings files surface).result ≠ .error (.charting (.invalidData reason))) ∧
    (∀ fs path cap report, analyze fs path cap = .ok report →
      report.histogram.frequencies ≠ [] ∧
        ∃ a largest, Loading.loadAlgorithm fs path = .ok a ∧ a.counts.max? = some largest ∧
          report.histogram.maxK = some (cap.elim largest (min · largest))) ∧
    ∀ paths made reports, discover files settings.resultsDir = .ok paths →
      files.ensureDirectory settings.plotsDir = .ok made →
        (reportAll settings made surface paths).result = .ok reports → Comparable reports :=
  ⟨fun _ hresult => run_not_isOfData hresult trivial, fun _ _ _ _ h => ⟨frequencies_ne_nil h, maxK_of_analyze h⟩,
    fun _ _ _ hpaths _ hreports => comparable_of_reportAll (ne_nil_of_discover hpaths) hreports⟩

/-- With a cap of zero, a bucket with five items still leaves the level zero to draw and to compare. -/
theorem run_finds_data_sole :
    ∃ report, analyze (soleResults.insert ["plots", "r"] .directory) ⟨"r/a.meta.json"⟩ (some 0) = .ok report ∧
      report.histogram.maxK = some 0 ∧ Comparable [report] := by
  obtain ⟨-, hlevels, hcomparable⟩ := run_finds_data cappedSettings soleResults .sound
  have hanalyze : analyze (soleResults.insert ["plots", "r"] .directory) ⟨"r/a.meta.json"⟩ (some 0) =
      .ok (reportOn (some 0) twoBuckets) := analyze_eq_ok_iff.mpr ⟨_, loadAlgorithm_sole, rfl⟩
  obtain ⟨-, a, largest, hload, hlargest, hmaxK⟩ := hlevels _ _ _ _ hanalyze
  rw [loadAlgorithm_sole] at hload
  cases hload
  cases hlargest
  refine ⟨reportOn (some 0) twoBuckets, hanalyze, hmaxK, ?_⟩
  refine hcomparable _ _ _ discover_sole ensureDirectory_sole ?_
  rw [reportAll, reportOne, show cappedSettings.maxK = some 0 from rfl, hanalyze]
  rfl

end Occupancy.Run
