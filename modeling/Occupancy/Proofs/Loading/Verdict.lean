import Occupancy.Loading
import Occupancy.Proofs.Counts
import Occupancy.Proofs.Descriptor.Text

/-! What becomes of a descriptor and its counts. When several things are wrong at once, the first in the order of the
checks is reported: the text of the descriptor, its number of buckets, the access to the counts, bytes left over, the
first negative count, and last the number of counts. Whatever passes all of them is loaded. -/

namespace Occupancy.Loading

variable {files : FileSystem} {path : Path} {content : Content} {r : Except LoadError Algorithm}

/-- Every outcome of loading a descriptor with this content, and when it is the outcome. -/
inductive Verdict (files : FileSystem) (path : Path) (content : Content) : Except LoadError Algorithm → Prop
  | malformed {cause : Json.SyntaxError} (htext : Descriptor.read content.toBytes = .error cause) :
      Verdict files path content (.error (.json (.malformed cause)))
  | zeroBuckets {d : Descriptor} (htext : Descriptor.read content.toBytes = .ok d) (hbuckets : d.numBuckets = 0) :
      Verdict files path content (.error (.zeroBuckets path))
  | unreadable {d : Descriptor} {cause : IoError} (htext : Descriptor.read content.toBytes = .ok d)
      (hbuckets : d.numBuckets ≠ 0) (hread : files.read (countsPath path d) = .error cause) :
      Verdict files path content (.error (.fileRead cause))
  | truncated {d : Descriptor} {b : List UInt8} (htext : Descriptor.read content.toBytes = .ok d)
      (hbuckets : d.numBuckets ≠ 0) (hread : files.read (countsPath path d) = .ok b) (hcut : ¬4 ∣ b.length) :
      Verdict files path content (.error (.truncatedCounts (countsPath path d) b.length))
  | negative {d : Descriptor} {b : List UInt8} {i : Nat} (htext : Descriptor.read content.toBytes = .ok d)
      (hbuckets : d.numBuckets ≠ 0) (hread : files.read (countsPath path d) = .ok b) (hwhole : 4 ∣ b.length)
      (hi : i < b.length / 4) (hnegative : Counts.countAt d.byteOrder b i < 0)
      (hfirst : ∀ j < i, 0 ≤ Counts.countAt d.byteOrder b j) :
      Verdict files path content
        (.error (.negativeCount (countsPath path d) i (Counts.countAt d.byteOrder b i)))
  | mismatched {d : Descriptor} {b : List UInt8} (htext : Descriptor.read content.toBytes = .ok d)
      (hbuckets : d.numBuckets ≠ 0) (hread : files.read (countsPath path d) = .ok b) (hwhole : 4 ∣ b.length)
      (hcounts : ∀ i < b.length / 4, 0 ≤ Counts.countAt d.byteOrder b i)
      (hlength : b.length / 4 ≠ d.numBuckets.toNat) :
      Verdict files path content
        (.error (.lengthMismatch (countsPath path d) (b.length / 4) d.numBuckets))
  | loaded {d : Descriptor} {b : List UInt8} {counts : List UInt32}
      (htext : Descriptor.read content.toBytes = .ok d) (hbuckets : d.numBuckets ≠ 0)
      (hread : files.read (countsPath path d) = .ok b) (hlength : b.length = 4 * d.numBuckets.toNat)
      (hcount : counts.length = d.numBuckets.toNat)
      (hcounts : ∀ i (hi : i < counts.length), (counts[i].toNat : Int) = Counts.countAt d.byteOrder b i) :
      Verdict files path content (.ok ⟨d, counts, countsPath path d⟩)

/-- The part of loading behind the descriptor. -/
def loadCounts (files : FileSystem) (path : Path) (d : Descriptor) : Except LoadError Algorithm :=
  match readCounts files (countsPath path d) d.byteOrder with
  | .error e => .error e
  | .ok counts =>
    if counts.length = d.numBuckets.toNat then .ok ⟨d, counts, countsPath path d⟩
    else .error (.lengthMismatch (countsPath path d) counts.length d.numBuckets)

/-- The bytes that are read decide what becomes of the descriptor. -/
theorem loadDescriptor_of_read {bytes : List UInt8} (hread : files.read path = .ok bytes) :
    loadDescriptor files path =
      match Descriptor.read bytes with
      | .error cause => .error (.json (.malformed cause))
      | .ok d => if d.numBuckets = 0 then .error (.zeroBuckets path) else .ok d := by
  rw [FileSystem.read] at hread
  split at hread
  · cases hread
  · rename_i hopen
    rw [loadDescriptor, hopen]
    simp only [parseDescriptor, hread]
    cases Descriptor.read bytes <;> rfl

theorem loadDescriptor_eq (hopen : files.openEntry path = .ok (.file content)) :
    loadDescriptor files path =
      match Descriptor.read content.toBytes with
      | .error cause => .error (.json (.malformed cause))
      | .ok d => if d.numBuckets = 0 then .error (.zeroBuckets path) else .ok d := by
  apply loadDescriptor_of_read
  rw [FileSystem.read, hopen]
  rfl

theorem loadAlgorithm_of_error {e : LoadError} (h : loadDescriptor files path = .error e) :
    loadAlgorithm files path = .error e := by
  rw [loadAlgorithm, h]

theorem loadAlgorithm_of_malformed {cause : Json.SyntaxError} (hopen : files.openEntry path = .ok (.file content))
    (htext : Descriptor.read content.toBytes = .error cause) :
    loadAlgorithm files path = .error (.json (.malformed cause)) := by
  apply loadAlgorithm_of_error
  rw [loadDescriptor_eq hopen, htext]

theorem loadAlgorithm_of_zeroBuckets {d : Descriptor} (hopen : files.openEntry path = .ok (.file content))
    (htext : Descriptor.read content.toBytes = .ok d) (hbuckets : d.numBuckets = 0) :
    loadAlgorithm files path = .error (.zeroBuckets path) := by
  apply loadAlgorithm_of_error
  rw [loadDescriptor_eq hopen, htext]
  exact if_pos hbuckets

theorem loadAlgorithm_eq {d : Descriptor} (hopen : files.openEntry path = .ok (.file content))
    (htext : Descriptor.read content.toBytes = .ok d) (hbuckets : d.numBuckets ≠ 0) :
    loadAlgorithm files path = loadCounts files path d := by
  rw [loadAlgorithm, loadDescriptor_eq hopen, htext]
  simp only [hbuckets, if_false]
  rfl

theorem readCounts_eq {p : Path} {b : List UInt8} (hread : files.read p = .ok b) (order : ByteOrder) :
    readCounts files p order = (Counts.decode order b).mapError (.ofCounts p) := by
  rw [readCounts, hread]
  rfl

theorem loadCounts_of_error {d : Descriptor} {cause : IoError} (hread : files.read (countsPath path d) = .error cause) :
    loadCounts files path d = .error (.fileRead cause) := by
  unfold loadCounts
  rw [readCounts, hread]

/-- The bytes of the counts decide what loading gives once the descriptor is read. -/
theorem loadCounts_eq {d : Descriptor} {b : List UInt8} (hread : files.read (countsPath path d) = .ok b)
    {decoded : Except Counts.Fault (List UInt32)} (hdecodes : Counts.Decodes d.byteOrder b decoded) :
    loadCounts files path d =
      match decoded with
      | .error fault => .error (.ofCounts (countsPath path d) fault)
      | .ok counts =>
        if counts.length = d.numBuckets.toNat then .ok ⟨d, counts, countsPath path d⟩
        else .error (.lengthMismatch (countsPath path d) counts.length d.numBuckets) := by
  unfold loadCounts
  rw [readCounts_eq hread, Counts.decode_eq_iff.mpr hdecodes]
  cases decoded <;> rfl

theorem verdict_loadAlgorithm (hopen : files.openEntry path = .ok (.file content)) :
    Verdict files path content (loadAlgorithm files path) := by
  cases htext : Descriptor.read content.toBytes with
  | error cause =>
      rw [loadAlgorithm_of_malformed hopen htext]
      exact .malformed htext
  | ok d =>
      by_cases hbuckets : d.numBuckets = 0
      · rw [loadAlgorithm_of_zeroBuckets hopen htext hbuckets]
        exact .zeroBuckets htext hbuckets
      rw [loadAlgorithm_eq hopen htext hbuckets]
      cases hread : files.read (countsPath path d) with
      | error cause =>
          rw [loadCounts_of_error hread]
          exact .unreadable htext hbuckets hread
      | ok b =>
          -- the cases of the verdict behind the reading are those of the decoding
          have hdecodes := Counts.decodes_decode d.byteOrder b
          generalize Counts.decode d.byteOrder b = decoded at hdecodes
          rw [loadCounts_eq hread hdecodes]
          cases hdecodes with
          | truncated hcut => exact .truncated htext hbuckets hread hcut
          | negative hwhole hi hnegative hfirst =>
              exact .negative htext hbuckets hread hwhole hi hnegative hfirst
          | @counts counts hwhole hlength hcounts =>
              dsimp only
              by_cases hcount : counts.length = d.numBuckets.toNat
              · rw [if_pos hcount]
                exact .loaded htext hbuckets hread (by omega) hcount hcounts
              · rw [if_neg hcount, hlength]
                rw [hlength] at hcount
                apply Verdict.mismatched htext hbuckets hread hwhole _ hcount
                intro i hi
                rw [← hcounts i (by omega)]
                exact Int.natCast_nonneg _

/-- A verdict is what loading gives. -/
theorem Verdict.loadAlgorithm_eq (h : Verdict files path content r) (hopen : files.openEntry path = .ok (.file content)) :
    loadAlgorithm files path = r := by
  cases h with
  | malformed htext => exact loadAlgorithm_of_malformed hopen htext
  | zeroBuckets htext hbuckets => exact loadAlgorithm_of_zeroBuckets hopen htext hbuckets
  | unreadable htext hbuckets hread =>
      rw [Loading.loadAlgorithm_eq hopen htext hbuckets, loadCounts_of_error hread]
  | truncated htext hbuckets hread hcut =>
      rw [Loading.loadAlgorithm_eq hopen htext hbuckets, loadCounts_eq hread (.truncated hcut)]
      rfl
  | negative htext hbuckets hread hwhole hi hnegative hfirst =>
      rw [Loading.loadAlgorithm_eq hopen htext hbuckets, loadCounts_eq hread (.negative hwhole hi hnegative hfirst)]
      rfl
  | @mismatched d b htext hbuckets hread hwhole hcounts hlength =>
      rw [Loading.loadAlgorithm_eq hopen htext hbuckets]
      have hdecodes := Counts.decodes_decode d.byteOrder b
      generalize Counts.decode d.byteOrder b = decoded at hdecodes
      rw [loadCounts_eq hread hdecodes]
      cases hdecodes with
      | truncated hcut => exact absurd hwhole hcut
      | negative _ hi hnegative => exact absurd (hcounts _ hi) (Int.not_le.mpr hnegative)
      | counts _ hcount _ =>
          dsimp only
          rw [hcount, if_neg hlength]
  | loaded htext hbuckets hread hlength hcount hcounts =>
      rw [Loading.loadAlgorithm_eq hopen htext hbuckets,
        loadCounts_eq hread (.counts (by omega) (by omega) hcounts)]
      exact if_pos hcount

/-- **The verdict on a descriptor.** Loading gives an outcome exactly when the verdict is that outcome. -/
theorem loadAlgorithm_eq_iff_verdict (hopen : files.openEntry path = .ok (.file content)) :
    loadAlgorithm files path = r ↔ Verdict files path content r := by
  constructor
  · rintro rfl
    exact verdict_loadAlgorithm hopen
  · intro h
    exact h.loadAlgorithm_eq hopen

def spoiltDescriptor : Descriptor := ⟨"fnv", 5, 9, "fnv.bin", "int32", some "big"⟩

def spoiltBytes : List UInt8 := [0, 0, 0, 3, 255, 255, 255, 254]

/-- A descriptor of five counts, and a file with two of them, of which the second one is negative. -/
def spoilt : FileSystem where
  entries :=
    [(["fnv.meta.json"], .file (.bytes spoiltDescriptor.text.toByteArray.toList)),
     (["fnv.bin"], .file (.bytes spoiltBytes))]
  workingDirectory := []

theorem loadAlgorithm_spoilt :
    loadAlgorithm spoilt ⟨"fnv.meta.json"⟩ = .error (.negativeCount ⟨"fnv.bin"⟩ 1 (-2)) := by
  have hopen : spoilt.openEntry ⟨"fnv.meta.json"⟩ =
      .ok (.file (.bytes spoiltDescriptor.text.toByteArray.toList)) := rfl
  have hread : spoilt.read (countsPath ⟨"fnv.meta.json"⟩ spoiltDescriptor) = .ok spoiltBytes := rfl
  have hverdict : Verdict spoilt ⟨"fnv.meta.json"⟩ (.bytes spoiltDescriptor.text.toByteArray.toList)
      (.error (.negativeCount (countsPath ⟨"fnv.meta.json"⟩ spoiltDescriptor) 1
        (Counts.countAt spoiltDescriptor.byteOrder spoiltBytes 1))) :=
    .negative (Descriptor.read_text spoiltDescriptor) (by decide) hread (by decide) (by decide) (by decide) (by decide)
  exact (loadAlgorithm_eq_iff_verdict hopen).mpr hverdict

/-! ### Descriptors that are in order -/

/-- The file at the path is a descriptor with buckets, and its counts are four bytes for each of them, none of which are
negative integers. -/
structure Valid (files : FileSystem) (path : Path) (d : Descriptor) : Prop where
  text : ∃ content, files.openEntry path = .ok (.file content) ∧ Descriptor.read content.toBytes = .ok d
  buckets : d.numBuckets ≠ 0
  counts : ∃ b, files.read (countsPath path d) = .ok b ∧ b.length = 4 * d.numBuckets.toNat ∧
    ∀ i < d.numBuckets.toNat, 0 ≤ Counts.countAt d.byteOrder b i

theorem Valid.exists_algorithm {d : Descriptor} (h : Valid files path d) :
    ∃ a, loadAlgorithm files path = .ok a ∧ a.descriptor = d := by
  obtain ⟨content, hopen, htext⟩ := h.text
  obtain ⟨b, hread, hlength, hcounts⟩ := h.counts
  rw [loadAlgorithm_eq hopen htext h.buckets]
  have hdecodes := Counts.decodes_decode d.byteOrder b
  generalize Counts.decode d.byteOrder b = decoded at hdecodes
  rw [loadCounts_eq hread hdecodes]
  cases hdecodes with
  | truncated hcut => exact absurd ⟨_, hlength⟩ hcut
  | negative _ hi hnegative => exact absurd (hcounts _ (by omega)) (Int.not_le.mpr hnegative)
  | @counts counts _ hcount _ => exact ⟨⟨d, counts, countsPath path d⟩, if_pos (by omega), rfl⟩

/-- What is loaded was in order. -/
theorem valid_of_loadAlgorithm {a : Algorithm} (hopen : files.openEntry path = .ok (.file content))
    (h : loadAlgorithm files path = .ok a) : Valid files path a.descriptor := by
  have hverdict := verdict_loadAlgorithm hopen
  rw [h] at hverdict
  cases hverdict with
  | @loaded d b counts htext hbuckets hread hlength hcount hcounts =>
      refine ⟨⟨content, hopen, htext⟩, hbuckets, b, hread, hlength, ?_⟩
      intro i hi
      have hlt : i < counts.length := by
        rw [hcount]
        exact hi
      rw [← hcounts i hlt]
      exact Int.natCast_nonneg _

end Occupancy.Loading
