import Occupancy.Loading

/-! What loading an algorithm comes down to: two files are read, and an algorithm that is loaded has buckets and a count
for each of them. -/

namespace Occupancy.Loading

variable {files changed : FileSystem} {path : Path} {d : Descriptor} {a : Algorithm}

theorem numBuckets_ne_zero (h : loadDescriptor files path = .ok d) : d.numBuckets ≠ 0 := by
  rw [loadDescriptor] at h
  split at h
  · cases h
  · split at h
    · cases h
    · split at h
      · cases h
      · cases h
        assumption

theorem loadAlgorithm_eq_ok_iff :
    loadAlgorithm files path = .ok a ↔
      ∃ d counts, loadDescriptor files path = .ok d ∧
        readCounts files (countsPath path d) d.byteOrder = .ok counts ∧
        counts.length = d.numBuckets.toNat ∧ a = ⟨d, counts, countsPath path d⟩ := by
  rw [loadAlgorithm]
  cases hdescriptor : loadDescriptor files path with
  | error e => exact ⟨nofun, fun ⟨d, counts, hd, _⟩ => nomatch hd⟩
  | ok d =>
      simp only
      cases hcounts : readCounts files (countsPath path d) d.byteOrder with
      | error e =>
          refine ⟨nofun, ?_⟩
          rintro ⟨d', counts, hd, hread, -⟩
          cases hd
          rw [hcounts] at hread
          cases hread
      | ok counts =>
          simp only
          constructor
          · intro h
            split at h
            · rename_i hlength
              cases h
              exact ⟨d, counts, rfl, hcounts, hlength, rfl⟩
            · cases h
          · rintro ⟨d', counts', hd, hread, hlength, rfl⟩
            cases hd
            rw [hcounts] at hread
            cases hread
            exact if_pos hlength

/-- There is one count for each bucket, and there are buckets. -/
theorem length_counts (h : loadAlgorithm files path = .ok a) :
    a.counts.length = a.descriptor.numBuckets.toNat ∧ a.counts ≠ [] := by
  obtain ⟨d, counts, hd, -, hlength, rfl⟩ := loadAlgorithm_eq_ok_iff.mp h
  refine ⟨hlength, ?_⟩
  rintro rfl
  exact numBuckets_ne_zero hd (UInt64.toNat_inj.mp hlength.symm)

/-- The two files that are read decide what is loaded. -/
theorem loadAlgorithm_congr (hopen : changed.openEntry path = files.openEntry path)
    (hread : ∀ d, loadDescriptor files path = .ok d →
      changed.read (countsPath path d) = files.read (countsPath path d)) :
    loadAlgorithm changed path = loadAlgorithm files path := by
  have hdescriptor : loadDescriptor changed path = loadDescriptor files path := by
    rw [loadDescriptor, loadDescriptor, hopen]
  rw [loadAlgorithm, loadAlgorithm, hdescriptor]
  cases hd : loadDescriptor files path with
  | error e => rfl
  | ok d => simp only [readCounts, hread d hd]

end Occupancy.Loading
