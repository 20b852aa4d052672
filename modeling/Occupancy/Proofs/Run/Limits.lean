import Occupancy.Proofs.Counts.Encoding
import Occupancy.Proofs.Histogram.Alignment
import Occupancy.Proofs.Histogram.Fractions
import Occupancy.Proofs.Run.Overlay

/-! Numbers of a report and the limits of their types. The number of buckets is whatever the descriptor says, but an
algorithm is loaded only if there is a count for each of them, and counts are below `2 ^ 31`. So sizes, frequencies, totals
and levels are what they would be if numbers had no limit, also when levels are cut off. -/

namespace Occupancy.Histogram

variable {counts : List UInt32} {n : Nat} {h g : Histogram} {hs : List Histogram}

/-- A histogram of at most `n` buckets whose numbers are exact: there is a total, which is the sum of the frequencies, and
its levels, fewer than can be told apart by 32-bit numbers, are those from zero on. -/
structure WithinLimits (n : Nat) (h : Histogram) : Prop where
  frequency : ∀ f ∈ h.frequencies, f.toNat ≤ n
  total : ∃ total, h.total = .ok total ∧ total.toNat = h.sum ∧ total.toNat ≤ n
  length : h.frequencies.length ≤ 2 ^ 31
  levels : h.levels.map UInt32.toNat = List.range h.frequencies.length
  maxK : h.maxK.map UInt32.toNat = (List.range h.frequencies.length).getLast?

theorem withinLimits_of_sum_le (hsum : h.sum ≤ n) (hn : n < 2 ^ 64) (hlength : h.frequencies.length ≤ 2 ^ 31) :
    WithinLimits n h := by
  have hlt : h.sum < 2 ^ 64 := Nat.lt_of_le_of_lt hsum hn
  have htotal : (UInt64.ofNat h.sum).toNat = h.sum := UInt64.toNat_ofNat_of_lt' hlt
  refine ⟨fun f hf => Nat.le_trans (toNat_le_sum hf) hsum, ⟨_, total_of_lt hlt, htotal, by omega⟩, hlength, ?_, ?_⟩
  · exact toNat_levels (by omega)
  · exact toNat_maxK (by omega)

/-- Cutting off levels keeps the limits. -/
theorem WithinLimits.of_prefix (hlimits : WithinLimits n h) (hn : n < 2 ^ 64)
    (hfront : g.frequencies <+: h.frequencies) : WithinLimits n g := by
  obtain ⟨total, -, hexact, hle⟩ := hlimits.total
  have hsum : g.sum ≤ n := by
    calc
      g.sum ≤ h.sum := sum_le_of_front hfront
      _ = total.toNat := hexact.symm
      _ ≤ n := hle
  exact withinLimits_of_sum_le hsum hn (Nat.le_trans hfront.length_le hlimits.length)

theorem withinLimits_ofCounts (cap : Option UInt32) (hlimit : counts.length < 2 ^ 64) (hne : counts ≠ [])
    (hcounts : ∀ c ∈ counts, c.toNat < 2 ^ 31) : WithinLimits counts.length (ofCounts counts cap) := by
  have hlargest : (topOf none counts).toNat < 2 ^ 31 := hcounts _ (topOf_mem hne)
  have htop : (topOf cap counts).toNat < 2 ^ 31 := by
    cases cap with
    | none => exact hlargest
    | some cap =>
        rw [toNat_topOf_some hne]
        omega
  rw [ofCounts_eq_upTo hne]
  apply withinLimits_of_sum_le _ hlimit
  · rw [length_upTo]
    omega
  · have hle := holdingUpTo_le_length counts (topOf cap counts).toNat
    rw [sum_upTo (by omega)]
    exact hle

/-- Aligned among others, a histogram is a front part of itself. -/
theorem exists_aligned {i : Nat} (hi : hs[i]? = some h) :
    ∃ aligned, (align hs)[i]? = some aligned ∧ aligned.frequencies <+: h.frequencies := by
  obtain ⟨hlt, rfl⟩ := List.getElem?_eq_some_iff.mp hi
  have hlt' : i < (align hs).length := by rwa [length_align]
  exact ⟨(align hs)[i], List.getElem?_eq_getElem hlt', ((forall₂_alignedFrom hs).get hlt hlt').front⟩

end Occupancy.Histogram

namespace Occupancy.Run

open Histogram

variable {files : FileSystem} {path : Path} {cap : Option UInt32} {report : Report} {a : Algorithm}

/-- What is loaded was read from a file with four bytes for each bucket, and its counts are below `2 ^ 31`. -/
theorem exists_read_of_loadAlgorithm (hload : Loading.loadAlgorithm files path = .ok a) :
    (∃ bytes, files.read (Loading.countsPath path a.descriptor) = .ok bytes ∧
      bytes.length = a.descriptor.numBuckets.toNat * 4) ∧
    ∀ c ∈ a.counts, c.toNat < 2 ^ 31 := by
  obtain ⟨d, counts, -, hread, hlength, rfl⟩ := Loading.loadAlgorithm_eq_ok_iff.mp hload
  obtain ⟨hbytes, hcounts⟩ := Loading.readCounts_eq_ok_iff.mp hread
  refine ⟨⟨_, hbytes, ?_⟩, hcounts⟩
  rw [Counts.length_encode, hlength, Nat.mul_comm]

/-- The size on the summary line is that of the file, if it is a size at all. -/
theorem toNat_countsSize {d : Descriptor} (hsize : d.numBuckets.toNat * 4 < 2 ^ 64) :
    (Report.countsSize d).toNat = d.numBuckets.toNat * 4 := by
  rw [Report.countsSize, UInt64.toNat_mul]
  exact Nat.mod_eq_of_lt hsize

theorem exists_summary_eq (d : Descriptor) :
    ∃ front, Report.summary d = front ++ s!"(counts: {Text.sizeText (Report.countsSize d)})" := ⟨_, rfl⟩

/-- **Numbers of a report do not wrap.** The counts that were read have four bytes for each bucket, and that is the size that
the summary ends with, as long as files are shorter than `2 ^ 64` bytes. The histogram of the report, cut off at any level or
aligned among any others, has exact frequencies, totals and levels, and counts no more buckets than there are. -/
theorem report_within_limits (h : analyze files path cap = .ok report) :
    (∃ bytes, files.read (Loading.countsPath path report.descriptor) = .ok bytes ∧
      bytes.length = report.descriptor.numBuckets.toNat * 4 ∧
      (bytes.length < 2 ^ 64 →
        report.descriptor.numBuckets.toNat * 4 ≤ 2 ^ 64 - 1 ∧
        (Report.countsSize report.descriptor).toNat = bytes.length ∧
        ∃ front, Report.summary report.descriptor =
          front ++ s!"(counts: {Text.sizeText (UInt64.ofNat bytes.length)})")) ∧
    WithinLimits report.descriptor.numBuckets.toNat report.histogram ∧
    (∀ top, WithinLimits report.descriptor.numBuckets.toNat (report.histogram.truncated top)) ∧
    ∀ hs (i : Nat), hs[i]? = some report.histogram →
      ∃ aligned, (align hs)[i]? = some aligned ∧ WithinLimits report.descriptor.numBuckets.toNat aligned := by
  obtain ⟨a, hload, rfl⟩ := analyze_eq_ok_iff.mp h
  obtain ⟨⟨bytes, hread, hsize⟩, hcounts⟩ := exists_read_of_loadAlgorithm hload
  obtain ⟨hlength, hne⟩ := Loading.length_counts hload
  have hbuckets : a.descriptor.numBuckets.toNat < 2 ^ 64 := a.descriptor.numBuckets.toNat_lt
  have hlimits : WithinLimits a.descriptor.numBuckets.toNat (reportOn cap a).histogram := by
    rw [← hlength] at hbuckets ⊢
    exact withinLimits_ofCounts cap hbuckets hne hcounts
  refine ⟨⟨bytes, hread, hsize, fun hfile => ?_⟩, hlimits, fun top => ?_, fun hs i hi => ?_⟩
  · have hcountsSize : (Report.countsSize a.descriptor).toNat = bytes.length := by
      rw [toNat_countsSize (by omega), hsize]
    refine ⟨Nat.le_sub_one_of_lt (hsize ▸ hfile), hcountsSize, ?_⟩
    rw [← hcountsSize, UInt64.ofNat_toNat]
    exact exists_summary_eq a.descriptor
  · exact hlimits.of_prefix hbuckets (List.take_prefix _ _)
  · obtain ⟨aligned, haligned, hfront⟩ := exists_aligned hi
    exact ⟨aligned, haligned, hlimits.of_prefix hbuckets hfront⟩

/-- Two buckets take eight bytes, and no frequency or total of their histogram is above two. -/
theorem report_within_limits_sole :
    ∃ report bytes, analyze (soleResults.insert ["plots", "r"] .directory) ⟨"r/a.meta.json"⟩ none = .ok report ∧
      (soleResults.insert ["plots", "r"] .directory).read ⟨"r/a.bin"⟩ = .ok bytes ∧
      (Report.countsSize report.descriptor).toNat = 8 ∧ WithinLimits 2 report.histogram ∧
      WithinLimits 2 (report.histogram.truncated 3) := by
  have hanalyze : analyze (soleResults.insert ["plots", "r"] .directory) ⟨"r/a.meta.json"⟩ none =
      .ok (reportOn none twoBuckets) := analyze_eq_ok_iff.mpr ⟨_, loadAlgorithm_sole, rfl⟩
  obtain ⟨⟨bytes, hread, hlength, hsize⟩, hlimits, htruncated, -⟩ := report_within_limits hanalyze
  have height : bytes.length = 8 := hlength
  obtain ⟨-, hcountsSize, -⟩ := hsize (by omega)
  exact ⟨_, bytes, hanalyze, hread, hcountsSize.trans height, hlimits, htruncated 3⟩

end Occupancy.Run
