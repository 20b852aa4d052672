import Occupancy.Proofs.Chart.Histogram
import Occupancy.Proofs.Histogram.Tally
import Occupancy.Proofs.Report
import Occupancy.Proofs.Run.Comparison

/-! What a cap does to reports and runs. It hides the levels above it and changes nothing else: expectations are computed
level by level, and percentages are of all buckets of the algorithm, whether or not their levels are shown. So a capped
report has the first rows of the report without a cap, and a cap that no count is above makes no difference to a run. -/

namespace Occupancy.Run

open FileSystem Histogram

variable {settings : Settings} {files left made : FileSystem} {surface later : Surface} {path : Path} {paths : List Path}
  {a : Algorithm} {largest cap : UInt32} {r : Location}

/-! ### One report -/

/-- A capped histogram is that without the cap up to the cap. -/
theorem histogram_reportOn_some (hlargest : a.counts.max? = some largest) (cap : UInt32) :
    (reportOn (some cap) a).histogram = (reportOn none a).histogram.truncated (min cap largest) := by
  have hcounts : a.counts ≠ [] := List.ne_nil_of_mem (List.max?_mem hlargest)
  have hle : (min cap largest).toNat ≤ largest.toNat := UInt32.le_iff_toNat_le.mp (Std.min_le_right)
  have htop : topOf (some cap) a.counts = min cap largest := by rw [topOf, hlargest]; rfl
  rw [histogram_reportOn hcounts, histogram_reportOn hcounts, topOf_none hlargest, htop, truncated_upTo hle]

theorem levelRows_truncated (h : Histogram) (top : UInt32) (expected : List Float) (total : UInt64) :
    levelRows (h.truncated top) (expected.take (top.toNat + 1)) total = (levelRows h expected total).take (top.toNat + 1) := by
  rw [levelRows, levelRows, pairs_truncated, List.take_zipWith]

/-- The rows of a histogram up to a level are the first rows of the histogram. -/
theorem rows_truncated (d : Descriptor) {h : Histogram} {top higher : UInt32}
    (hlength : h.frequencies.length = higher.toNat + 1) (hle : top ≤ higher) :
    (Report.rows ⟨d, h.truncated top⟩) = (Report.rows ⟨d, h⟩).take (top.toNat + 1) := by
  have htop := length_truncated hlength (UInt32.le_iff_toNat_le.mp hle)
  rw [Report.rows, Report.rows, Report.expected, Report.expected]
  simp only [maxK_of_length htop, maxK_of_length hlength]
  rw [← Poisson.take_expected hle, levelRows_truncated]

/-- A report shows the first `n` levels of another one on the same descriptor: its rows are the first `n` rows of the
other, and its chart on a linear axis shows the first `n` levels of the chart of the other. -/
structure ReportsFirst (n : Nat) (front whole : Report) : Prop where
  descriptor : front.descriptor = whole.descriptor
  rows : front.rows = whole.rows.take n
  rowCount : front.rows.length = n
  charts : ∀ options : Chart.Options, options.scale = .linear →
    ∃ chart wholeChart, Chart.ofHistogram front.descriptor front.histogram options = .ok chart ∧
      Chart.ofHistogram whole.descriptor whole.histogram options = .ok wholeChart ∧
        Chart.ShowsFirst options n chart wholeChart

theorem reportsFirst_reportOn (hlargest : a.counts.max? = some largest) (cap : UInt32) :
    ReportsFirst ((min cap largest).toNat + 1) (reportOn (some cap) a) (reportOn none a) := by
  have hcounts : a.counts ≠ [] := List.ne_nil_of_mem (List.max?_mem hlargest)
  have hcapped : reportOn (some cap) a = ⟨a.descriptor, (reportOn none a).histogram.truncated (min cap largest)⟩ := by
    rw [← histogram_reportOn_some hlargest]
    rfl
  have hlength : (reportOn none a).histogram.frequencies.length = largest.toNat + 1 := by
    rw [histogram_reportOn hcounts, topOf_none hlargest, length_upTo]
  have hle : min cap largest ≤ largest := Std.min_le_right
  have htop := length_truncated hlength (UInt32.le_iff_toNat_le.mp hle)
  rw [hcapped]
  have hrows : (Report.rows ⟨a.descriptor, (reportOn none a).histogram.truncated (min cap largest)⟩).length =
      (min cap largest).toNat + 1 := by
    rw [Report.length_rows, htop]
    exact htop ▸ (min cap largest).toNat_lt
  exact ⟨rfl, rows_truncated a.descriptor hlength hle, hrows,
    fun _ hscale => Chart.exists_showsFirst a.descriptor hlength hle hscale⟩

/-! ### Whole runs -/

/-- A cap that no count is above does not change a histogram. -/
theorem ofCounts_some_of_le {counts : List UInt32} (h : ∀ c ∈ counts, c ≤ cap) :
    ofCounts counts (some cap) = ofCounts counts none := by
  rw [ofCounts, ofCounts]
  cases hlargest : counts.max? with
  | none => rfl
  | some largest =>
      have hle : largest ≤ cap := h largest (List.max?_mem hlargest)
      have htop : topLevel (some cap) largest = largest :=
        UInt32.le_antisymm Std.min_le_right (Std.le_min_iff.mpr ⟨hle, UInt32.le_refl largest⟩)
      simp only [htop]
      rfl

/-- A cap is above all counts that a run comes to. This speaks of the states inside the run: whenever all descriptors before
one have been reported on, no count that is then loaded for it is above the cap. -/
def Covers (cap : UInt32) (settings : Settings) (files : FileSystem) (surface : Surface) (paths : List Path) : Prop :=
  ∀ before path after reports, paths = before ++ path :: after →
    (reportAll settings files surface before).result = .ok reports →
      ∀ a, Loading.loadAlgorithm (reportAll settings files surface before).files path = .ok a → ∀ c ∈ a.counts, c ≤ cap

theorem Covers.head (h : Covers cap settings files surface (path :: paths)) :
    ∀ a, Loading.loadAlgorithm files path = .ok a → ∀ c ∈ a.counts, c ≤ cap := h [] path paths [] rfl rfl

theorem Covers.tail (h : Covers cap settings files surface (path :: paths)) {report : Report}
    (hfirst : (reportOne settings files surface path).result = .ok report) :
    Covers cap settings (reportOne settings files surface path).files (reportOne settings files surface path).surface
      paths := by
  intro before next after reports hsplit hbefore
  have hcons : reportAll settings files surface (path :: before) =
      (reportOne settings files surface path).andThen fun files surface report =>
        (reportAll settings files surface before).map (report :: ·) := rfl
  have hnext := h (path :: before) next after (report :: reports) (by rw [hsplit]; rfl)
  simp only [hcons, Outcome.andThen, hfirst, Outcome.map, hbefore] at hnext
  exact hnext rfl

theorem reportOne_some (h : ∀ a, Loading.loadAlgorithm files path = .ok a → ∀ c ∈ a.counts, c ≤ cap) :
    reportOne { settings with maxK := some cap } files surface path =
      reportOne { settings with maxK := none } files surface path := by
  have hanalyze : analyze files path (some cap) = analyze files path none := by
    rw [analyze, analyze]
    cases hload : Loading.loadAlgorithm files path with
    | error e => rfl
    | ok a => simp only [ofCounts_some_of_le (h a hload)]
  rw [reportOne, reportOne, hanalyze]
  rfl

theorem reportAll_some (h : Covers cap { settings with maxK := none } files surface paths) :
    reportAll { settings with maxK := some cap } files surface paths =
      reportAll { settings with maxK := none } files surface paths := by
  induction paths generalizing files surface with
  | nil => rfl
  | cons path paths ih =>
      rw [reportAll, reportAll, reportOne_some h.head]
      cases hfirst : (reportOne { settings with maxK := none } files surface path).result with
      | error e => simp only [Outcome.andThen, hfirst]
      | ok report => simp only [Outcome.andThen, hfirst, ih (h.tail hfirst)]

/-- A run with a cap that is above all counts it comes to is the run without the cap. -/
theorem run_some (h : ∀ paths made, discover files settings.resultsDir = .ok paths →
      files.ensureDirectory settings.plotsDir = .ok made → Covers cap { settings with maxK := none } made surface paths) :
    run { settings with maxK := some cap } files surface = run { settings with maxK := none } files surface := by
  have hoverlay : overlay { settings with maxK := some cap } = overlay { settings with maxK := none } := rfl
  rw [run, run]
  cases hpaths : discover files settings.resultsDir with
  | error e => rfl
  | ok paths =>
      have hplots (maxK : Option UInt32) : { settings with maxK }.plotsDir = settings.plotsDir := rfl
      simp only [hplots]
      cases hmade : files.ensureDirectory settings.plotsDir with
      | error e => rfl
      | ok made =>
          simp only [chartAll, reportAll_some (h paths made hpaths hmade), hoverlay]
          rfl

theorem Secluded.withCap (h : Secluded settings files) (cap : Option UInt32) :
    Secluded { settings with maxK := cap } files := ⟨⟨h.world, h.noLink, h.noLinks⟩, h.counts⟩

/-- No descriptor and no counts are overwritten before a run comes to them: they are then loaded as at the start. -/
def LoadsAsAtStart (settings : Settings) (files made : FileSystem) (surface : Surface) (paths : List Path) : Prop :=
  ∀ before path after reports, paths = before ++ path :: after →
    (reportAll settings made surface before).result = .ok reports →
      Loading.loadAlgorithm (reportAll settings made surface before).files path = Loading.loadAlgorithm files path

/-- Where no counts are overwritten, it is enough that the cap is above all counts at the start. -/
theorem LoadsAsAtStart.covers (h : LoadsAsAtStart settings files made surface paths)
    (hcap : ∀ path ∈ paths, ∀ a, Loading.loadAlgorithm files path = .ok a → ∀ c ∈ a.counts, c ≤ cap) :
    Covers cap settings made surface paths := by
  intro before path after reports hsplit hbefore a hload
  have hpath : path ∈ paths := by
    rw [hsplit]
    exact List.mem_append_right _ List.mem_cons_self
  rw [h before path after reports hsplit hbefore] at hload
  exact hcap path hpath a hload

theorem Secluded.loadsAsAtStart (h : Secluded settings files) (hpaths : discover files settings.resultsDir = .ok paths)
    (hmade : files.ensureDirectory settings.plotsDir = .ok made) :
    LoadsAsAtStart settings files made surface paths := by
  obtain ⟨r, hdir⟩ := resolve_of_discover hpaths
  obtain ⟨hgrown, -⟩ := h.grown hdir hpaths hmade
  intro before path after reports hsplit hbefore
  have hpath : path ∈ paths := by
    rw [hsplit]
    exact List.mem_append_right _ List.mem_cons_self
  obtain ⟨done, -, hdone⟩ := handled_of_ok hbefore
  have hleft := hgrown.writeAll (isName_of_mem_chartWrites done) hdone.writeAll
  exact hleft.loadAlgorithm_eq h hdir hpaths hpath

/-- **A cap hides the levels above it and nothing else.** Of every valid descriptor the capped report shows the first levels
of the report without a cap, up to the cap or the largest count. And with a cap that is above all counts a run does exactly
what it does without. Whether it is above them, the states inside the run without the cap tell, as counts may be overwritten
by charts; where they are not, and so over secluded results, the counts at the start tell. -/
theorem cap_hides_levels (cap : UInt32) :
    (∀ files path d, Loading.Valid files path d →
      ∃ a largest front whole, Loading.loadAlgorithm files path = .ok a ∧ a.descriptor = d ∧
        a.counts.max? = some largest ∧ analyze files path (some cap) = .ok front ∧
          analyze files path none = .ok whole ∧ ReportsFirst ((min cap largest).toNat + 1) front whole) ∧
    (∀ (settings : Settings) files surface,
      (∀ paths made, discover files settings.resultsDir = .ok paths →
        files.ensureDirectory settings.plotsDir = .ok made →
          Covers cap { settings with maxK := none } made surface paths) →
      run { settings with maxK := some cap } files surface = run { settings with maxK := none } files surface) ∧
    (∀ (settings : Settings) files surface,
      (∀ paths made, discover files settings.resultsDir = .ok paths →
        files.ensureDirectory settings.plotsDir = .ok made →
          LoadsAsAtStart { settings with maxK := none } files made surface paths) →
      (∀ paths, discover files settings.resultsDir = .ok paths →
        ∀ path ∈ paths, ∀ a, Loading.loadAlgorithm files path = .ok a → ∀ c ∈ a.counts, c ≤ cap) →
      run { settings with maxK := some cap } files surface = run { settings with maxK := none } files surface) ∧
    ∀ settings files surface, Secluded settings files →
      (∀ paths, discover files settings.resultsDir = .ok paths →
        ∀ path ∈ paths, ∀ a, Loading.loadAlgorithm files path = .ok a → ∀ c ∈ a.counts, c ≤ cap) →
      run { settings with maxK := some cap } files surface = run { settings with maxK := none } files surface := by
  refine ⟨?_, fun _ _ _ => run_some, ?_, ?_⟩
  · intro files path d hvalid
    obtain ⟨a, hload, hdescriptor⟩ := hvalid.exists_algorithm
    obtain ⟨largest, hlargest⟩ := Option.isSome_iff_exists.mp (List.isSome_max?_of_ne_nil (Loading.length_counts hload).2)
    exact ⟨a, largest, reportOn (some cap) a, reportOn none a, hload, hdescriptor, hlargest,
      analyze_eq_ok_iff.mpr ⟨a, hload, rfl⟩, analyze_eq_ok_iff.mpr ⟨a, hload, rfl⟩, reportsFirst_reportOn hlargest cap⟩
  · intro settings files surface hloads hcap
    exact run_some fun paths made hpaths hmade => (hloads paths made hpaths hmade).covers (hcap paths hpaths)
  · intro settings files surface hsecluded hcap
    refine run_some fun paths made hpaths hmade => ?_
    exact ((hsecluded.withCap none).loadsAsAtStart hpaths hmade).covers (hcap paths hpaths)

/-- Of a bucket with five items a cap of zero leaves the level zero, and a cap of five leaves all there is. -/
theorem cap_hides_levels_sole :
    (∃ front whole, analyze soleResults ⟨"r/a.meta.json"⟩ (some 0) = .ok front ∧
      analyze soleResults ⟨"r/a.meta.json"⟩ none = .ok whole ∧ ReportsFirst 1 front whole) ∧
    (∀ surface, run { cappedSettings with maxK := some 5 } soleResults surface =
      run { cappedSettings with maxK := none } soleResults surface) ∧
    (∀ stage n, run { cappedSettings with maxK := some 5 } soleResults (.faulty stage n) =
      run { cappedSettings with maxK := none } soleResults (.faulty stage n)) ∧
    run { cappedSettings with maxK := some 5 } soleResults .sound =
      run { cappedSettings with maxK := none } soleResults .sound := by
  have hload : Loading.loadAlgorithm soleResults ⟨"r/a.meta.json"⟩ = .ok twoBuckets := loadAlgorithm_twoBuckets rfl rfl
  have hcap : ∀ paths, discover soleResults cappedSettings.resultsDir = .ok paths →
      ∀ path ∈ paths, ∀ a, Loading.loadAlgorithm soleResults path = .ok a → ∀ c ∈ a.counts, c ≤ 5 := by
    intro paths hpaths path hpath a ha
    rw [discover_sole] at hpaths
    cases hpaths
    cases List.mem_singleton.mp hpath
    rw [hload] at ha
    cases ha
    exact List.forall_mem_cons.mpr ⟨by decide, List.forall_mem_singleton.mpr (by decide)⟩
  have hloads {surface : Surface} (paths : List Path) (made : FileSystem)
      (hpaths : discover soleResults cappedSettings.resultsDir = .ok paths)
      (hmade : soleResults.ensureDirectory cappedSettings.plotsDir = .ok made) :
      LoadsAsAtStart { cappedSettings with maxK := none } soleResults made surface paths :=
    (secluded_sole.withCap none).loadsAsAtStart hpaths hmade
  refine ⟨?_, fun surface => ?_, fun stage n => ?_, ?_⟩
  · have hvalid : Loading.Valid soleResults ⟨"r/a.meta.json"⟩ twoBuckets.descriptor :=
      Loading.valid_of_loadAlgorithm rfl hload
    obtain ⟨a, largest, front, whole, ha, -, hlargest, hfront, hwhole, hfirst⟩ := (cap_hides_levels 0).1 _ _ _ hvalid
    rw [hload] at ha
    cases ha
    cases hlargest
    exact ⟨front, whole, hfront, hwhole, hfirst⟩
  · exact (cap_hides_levels 5).2.2.2 cappedSettings soleResults surface secluded_sole hcap
  · exact (cap_hides_levels 5).2.2.1 cappedSettings soleResults (.faulty stage n) hloads hcap
  · refine (cap_hides_levels 5).2.1 cappedSettings soleResults .sound fun paths made hpaths hmade => ?_
    exact (hloads paths made hpaths hmade).covers (hcap paths hpaths)

end Occupancy.Run
