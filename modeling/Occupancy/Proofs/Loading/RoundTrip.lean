import Occupancy.Proofs.Loading.Verdict

/-! What is written on disk is loaded again: the text of a descriptor and, in the file that it names, the bytes of its
counts in the byte order that it declares. -/

namespace Occupancy.Loading

variable {files : FileSystem} {path : Path} {content : Content}

/-- **Loading what has been written.** Every descriptor is loaded from its text, field by field, with the counts whose
bytes are in the file that it names in its own directory. -/
theorem loadAlgorithm_written {d : Descriptor} {counts : List UInt32}
    (hopen : files.openEntry path = .ok (.file content)) (htext : content.toBytes = d.text.toByteArray.toList)
    (hread : files.read ((path.parent?.getD ⟨"."⟩).join ⟨d.countsFile⟩) = .ok (Counts.encode d.byteOrder counts))
    (hnonempty : counts ≠ []) (hcounts : ∀ c ∈ counts, c.toNat < 2 ^ 31)
    (hlength : counts.length = d.numBuckets.toNat) :
    loadAlgorithm files path = .ok ⟨d, counts, (path.parent?.getD ⟨"."⟩).join ⟨d.countsFile⟩⟩ := by
  have hbuckets : d.numBuckets ≠ 0 := by
    intro hzero
    rw [hzero] at hlength
    exact hnonempty (List.length_eq_zero_iff.mp hlength)
  have hdescriptor : Descriptor.read content.toBytes = .ok d := by
    rw [htext]
    exact Descriptor.read_text d
  rw [← countsPath] at hread ⊢
  rw [loadAlgorithm_eq hopen hdescriptor hbuckets,
    loadCounts_eq hread (Counts.decode_eq_iff.mp (Counts.decode_encode hcounts))]
  exact if_pos hlength

/-- Nothing but the descriptor itself is loaded from its text. -/
theorem eq_of_loadDescriptor_text {d e : Descriptor}
    (hopen : files.openEntry path = .ok (.file (.bytes d.text.toByteArray.toList)))
    (h : loadDescriptor files path = .ok e) : e = d := by
  have hread : Descriptor.read (Content.bytes d.text.toByteArray.toList).toBytes = .ok d := Descriptor.read_text d
  rw [loadDescriptor_eq hopen, hread] at h
  simp only at h
  split at h
  · cases h
  · cases h
    rfl

/-- A descriptor with a name that has to be escaped, the largest number of items, and a tag for the byte order. -/
def oddDescriptor : Descriptor :=
  ⟨"λ \"\\\n\x01\x7f😀", 2, 0xFFFFFFFFFFFFFFFF, "odd.bin", "<i4", some " BIG-endian"⟩

def oddFiles : FileSystem where
  entries :=
    [(["r"], .directory),
     (["odd.meta.json", "r"], .file (.bytes oddDescriptor.text.toByteArray.toList)),
     (["odd.bin", "r"], .file (.bytes [127, 255, 255, 255, 0, 0, 0, 1]))]
  workingDirectory := []

theorem loadAlgorithm_oddFiles :
    loadAlgorithm oddFiles ⟨"r/odd.meta.json"⟩ = .ok ⟨oddDescriptor, [0x7FFFFFFF, 1], ⟨"r/odd.bin"⟩⟩ := by
  have hopen : oddFiles.openEntry ⟨"r/odd.meta.json"⟩ =
      .ok (.file (.bytes oddDescriptor.text.toByteArray.toList)) := rfl
  have hread : oddFiles.read ((Path.parent? ⟨"r/odd.meta.json"⟩ |>.getD ⟨"."⟩).join ⟨oddDescriptor.countsFile⟩) =
      .ok (Counts.encode oddDescriptor.byteOrder [0x7FFFFFFF, 1]) := by rfl
  have hcounts : ∀ c ∈ ([0x7FFFFFFF, 1] : List UInt32), c.toNat < 2 ^ 31 :=
    List.forall_mem_cons.mpr ⟨by decide, List.forall_mem_singleton.mpr (by decide)⟩
  exact loadAlgorithm_written hopen rfl hread (by decide) hcounts (by decide)

end Occupancy.Loading
