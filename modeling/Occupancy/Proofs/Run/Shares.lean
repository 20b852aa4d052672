import Occupancy.Proofs.Histogram.Tally
import Occupancy.Proofs.Report
import Occupancy.Proofs.Run.Overlay

/-! Shares of buckets in the overlay and on the console. The overlay divides by the number of buckets that it shows, the
percentages on the console are of all buckets. So both speak of the same ratio for an algorithm that has no bucket beyond
the levels of the overlay, whatever the cap and the other algorithms are. -/

namespace Occupancy.Run

open Histogram

variable {settings : Settings} {files : FileSystem} {surface : Surface} {dir : Path} {a : Algorithm} {top : UInt32}
  {cap : Option UInt32} {k : Nat}

/-- The share of the buckets with `k` items in all buckets. -/
def shareOfAll (a : Algorithm) (k : Nat) : Float :=
  ofCount (UInt64.ofNat (holding a.counts k)) / ofCount a.descriptor.numBuckets

/-- Where no bucket is beyond a level, the buckets up to it are all buckets. -/
theorem share_eq_shareOfAll (hlength : a.counts.length = a.descriptor.numBuckets.toNat) (hcounts : a.counts ≠ [])
    (hbeyond : ∀ c ∈ a.counts, c ≤ top) (k : Nat) : share a.counts top.toNat k = shareOfAll a k := by
  have hall : holdingUpTo a.counts top.toNat = a.counts.length :=
    holdingUpTo_eq_length fun c hc => UInt32.le_iff_toNat_le.mp (hbeyond c hc)
  have hsome : holdingUpTo a.counts top.toNat ≠ 0 := by
    rw [hall, ne_eq, List.length_eq_zero_iff]
    exact hcounts
  rw [share, if_neg hsome, hall, hlength, UInt64.ofNat_toNat, shareOfAll]

/-! ### Percentages -/

/-- The table on the console has a row for every level of the histogram, with the percentage of all buckets. -/
theorem percentage_rows (hlength : a.counts.length = a.descriptor.numBuckets.toNat) (hcounts : a.counts ≠ [])
    (hk : k ≤ (topOf cap a.counts).toNat) :
    (reportOn cap a).rows[k]?.map LevelRow.percentage =
      some (Decimal.fixed 2 (shareOfAll a k * 100.0) ++ "%") := by
  have hbuckets : a.descriptor.numBuckets ≠ 0 := by
    intro hzero
    rw [hzero] at hlength
    exact hcounts (List.length_eq_zero_iff.mp hlength)
  have hlevelCount : (reportOn cap a).histogram.frequencies.length = (topOf cap a.counts).toNat + 1 := by
    rw [histogram_reportOn hcounts, length_upTo]
  have hlimit := (topOf cap a.counts).toNat_lt
  have hlists := Report.listsLevels (maxK_of_length hlevelCount) (by omega)
  refine hlists.percentage hbuckets ?_
  rw [histogram_reportOn hcounts, getElem?_upTo, if_pos hk]

/-! ### Overlay and console -/

/-- **The shares of an overlay.** An overlay of fractions shows the shares of the buckets in those up to its last level.
For an algorithm that has no bucket beyond it, these are the shares in all buckets, whose percentages are on the
console. -/
theorem overlay_shares (hwanted : settings.overlay = true) (hnormalize : settings.chart.normalizeOverlay = true)
    (hok : (run settings files surface).result = .ok dir) :
    ∃ paths algorithms drawing top,
      Overlaid settings files paths algorithms drawing (run settings files surface).files ∧
      (algorithms.map fun a => topOf settings.maxK a.counts).min? = some top ∧
      ∀ (i : Nat) a, algorithms[i]? = some a →
        (settings.quiet = false → .table (reportOn settings.maxK a) ∈ (run settings files surface).console) ∧
        ∃ series : Chart.Series, (overlaySeries (algorithms.map (reportOn settings.maxK)))[i]? = some series ∧
          series.name = a.descriptor.algorithm ∧ series.histogram.frequencies.length = top.toNat + 1 ∧
          ∃ values, Chart.overlayValues settings.chart.normalizeOverlay series.histogram = .ok values ∧
            ∀ k ≤ top.toNat,
              values[k]? = some (share a.counts top.toNat k : Float) ∧
              (reportOn settings.maxK a).rows[k]?.map LevelRow.percentage =
                some (Decimal.fixed 2 (shareOfAll a k * 100.0) ++ "%") ∧
              ((∀ c ∈ a.counts, c ≤ top) → share a.counts top.toNat k = shareOfAll a k) := by
  obtain ⟨paths, algorithms, drawing, h, hconsole⟩ := exists_overlaid hwanted hok
  obtain ⟨top, htop⟩ := h.exists_top
  refine ⟨paths, algorithms, drawing, top, h, htop, ?_⟩
  intro i a ha
  have hmem : a ∈ algorithms := List.mem_of_getElem? ha
  obtain ⟨hlength, hcounts⟩ := h.length_counts a hmem
  have hle : top ≤ topOf settings.maxK a.counts :=
    (List.min?_eq_some_iff.mp htop).2 _ (List.mem_map_of_mem hmem)
  constructor
  · intro hquiet
    rw [hconsole]
    apply List.mem_append_left
    refine List.mem_flatMap.mpr ⟨_, List.mem_map_of_mem hmem, ?_⟩
    rw [block, Report.lines, hquiet]
    simp
  · have hlimit : a.counts.length < 2 ^ 64 := by
      rw [hlength]
      exact a.descriptor.numBuckets.toNat_lt
    refine ⟨⟨a.descriptor.algorithm, upTo top.toNat a.counts⟩, ?_, rfl, length_upTo _ _, _,
      Chart.overlayValues_upTo hlimit _ _, ?_⟩
    · rw [overlaySeries_eq (fun a ha => (h.length_counts a ha).2) htop, List.getElem?_map, ha]
      rfl
    · intro k hk
      refine ⟨?_, percentage_rows hlength hcounts (Nat.le_trans hk (UInt32.le_iff_toNat_le.mp hle)),
        fun hbeyond => share_eq_shareOfAll hlength hcounts hbeyond k⟩
      rw [hnormalize, List.getElem?_map, List.getElem?_range (Nat.lt_succ_of_le hk)]
      rfl

theorem overlay_shares_sole :
    ∃ drawing, Overlaid cappedSettings soleResults [⟨"r/a.meta.json"⟩] [twoBuckets] drawing
        (run cappedSettings soleResults .sound).files ∧
      ∃ series values, (overlaySeries [reportOn (some 0) twoBuckets])[0]? = some series ∧
        Chart.overlayValues true series.histogram = .ok values ∧ values[0]? = some (share [0, 5] 0 0 : Float) := by
  obtain ⟨dir, hok⟩ := exists_ok_sole
  obtain ⟨paths, algorithms, drawing, top, hoverlaid, htop, hshares⟩ := overlay_shares rfl rfl hok
  cases hoverlaid.eq_twoBuckets
  cases htop
  have hpaths := hoverlaid.discovered
  rw [discover_sole] at hpaths
  cases hpaths
  obtain ⟨-, series, hseries, -, -, values, hvalues, hlevels⟩ := hshares 0 twoBuckets rfl
  exact ⟨drawing, hoverlaid, series, values, hseries, hvalues, (hlevels 0 (Nat.le_refl 0)).1⟩

/-- Where buckets are beyond the levels of the overlay, its shares are not those in all buckets. -/
theorem not_shares_of_all :
    ¬∀ (settings : Settings) (files : FileSystem) (surface : Surface) (dir : Path), settings.overlay = true →
      settings.chart.normalizeOverlay = true → (run settings files surface).result = .ok dir →
        ∀ paths algorithms drawing,
          Overlaid settings files paths algorithms drawing (run settings files surface).files →
            ∀ (i : Nat) (a : Algorithm) (series : Chart.Series) (values : List Float), algorithms[i]? = some a →
              (overlaySeries (algorithms.map (reportOn settings.maxK)))[i]? = some series →
                Chart.overlayValues settings.chart.normalizeOverlay series.histogram = .ok values →
                  ∀ k < series.histogram.frequencies.length, values[k]? = some (shareOfAll a k) := by
  intro hall
  obtain ⟨dir, hok⟩ := exists_ok_sole
  obtain ⟨paths, algorithms, drawing, hoverlaid, -⟩ := exists_overlaid rfl hok
  cases hoverlaid.eq_twoBuckets
  have hseries : (overlaySeries [reportOn (some 0) twoBuckets])[0]? = some ⟨"a", upTo 0 [0, 5]⟩ := by decide +kernel
  have hvalues : Chart.overlayValues true (upTo 0 [0, 5]) = .ok ((List.range 1).map (share [0, 5] 0)) :=
    Chart.overlayValues_upTo (by decide) true 0
  have hvalue := hall _ _ _ dir rfl rfl hok _ _ drawing hoverlaid 0 twoBuckets _ _ rfl hseries hvalues 0 (by decide)
  -- one bucket of the one that is shown, and one of two
  have hbits := congrArg (Option.map Float.toBits) hvalue
  revert hbits
  decide +kernel

end Occupancy.Run
