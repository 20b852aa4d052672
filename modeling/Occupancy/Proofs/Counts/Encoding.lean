import Occupancy.Loading
import Occupancy.Proofs.Counts

/-! Counts and the bytes that they are stored as. Bytes that are accepted are the encoding of the counts read from them, and
of no other counts; which bytes are accepted is said by the counts alone, all of which are below `2 ^ 31`. The two byte
orders differ in nothing but the direction in which each group of four bytes is read. -/

namespace Occupancy.Counts

variable {order : ByteOrder} {bytes : List UInt8} {counts : List UInt32}

/-! ### Encoding what was read -/

theorem encode_cons (order : ByteOrder) (word : UInt32) (counts : List UInt32) :
    encode order (word :: counts) = order.bytes word ++ encode order counts := List.flatMap_cons

theorem length_lt_of_short (hshort : ∀ a b c d rest, bytes = a :: b :: c :: d :: rest → False) : bytes.length < 4 := by
  rcases bytes with _ | ⟨a, _ | ⟨b, _ | ⟨c, _ | ⟨d, rest⟩⟩⟩⟩
  · exact Nat.zero_lt_succ _
  · exact Nat.one_lt_succ_succ _
  · simp
  · simp
  · exact absurd rfl (hshort a b c d rest)

/-- Bytes without any left over are the encoding of their words. -/
theorem encode_words (hwhole : 4 ∣ bytes.length) : encode order (words order bytes) = bytes := by
  fun_induction words order bytes with
  | case1 a b c d rest ih =>
      have hrest : 4 ∣ rest.length := by
        simp only [List.length_cons] at hwhole
        omega
      rw [encode_cons, ByteOrder.bytes_word, ih hrest]
      rfl
  | case2 bytes hshort =>
      have hlt := length_lt_of_short hshort
      rw [List.length_eq_zero_iff.mp (by omega : bytes.length = 0)]
      rfl

theorem isNegative_eq_false_iff {word : UInt32} : isNegative word = false ↔ word.toNat < 2 ^ 31 := by
  rw [isNegative, decide_eq_false_iff_not, Nat.not_le]
  rfl

/-- What is accepted are the encodings of counts below `2 ^ 31`, and they are read as these counts. -/
theorem decode_eq_ok_iff :
    decode order bytes = .ok counts ↔ encode order counts = bytes ∧ ∀ c ∈ counts, c.toNat < 2 ^ 31 := by
  constructor
  · intro h
    rw [decode] at h
    by_cases hwhole : 4 ∣ bytes.length
    · rw [if_neg (by omega)] at h
      dsimp only at h
      cases hfound : firstNegative? (words order bytes) with
      | some found =>
          rw [hfound] at h
          cases h
      | none =>
          rw [hfound] at h
          cases h
          refine ⟨encode_words hwhole, fun c hc => ?_⟩
          exact isNegative_eq_false_iff.mp (firstNegative?_eq_none_iff.mp hfound c hc)
    · rw [if_pos (by omega)] at h
      cases h
  · rintro ⟨rfl, hcounts⟩
    exact decode_encode hcounts

/-! ### The other byte order -/

/-- Bytes with every group of four turned round. Bytes that are left over at the end stay as they are. -/
def turned : List UInt8 → List UInt8
  | a :: b :: c :: d :: rest => d :: c :: b :: a :: turned rest
  | rest => rest

theorem length_turned (bytes : List UInt8) : (turned bytes).length = bytes.length := by
  fun_induction turned bytes with
  | case1 a b c d rest ih => simp only [List.length_cons, ih]
  | case2 rest => rfl

theorem word_little_turned (a b c d : UInt8) : ByteOrder.little.word d c b a = ByteOrder.big.word a b c d := rfl

theorem words_turned (bytes : List UInt8) : words .little (turned bytes) = words .big bytes := by
  fun_induction turned bytes with
  | case1 a b c d rest ih => rw [words, words, word_little_turned, ih]
  | case2 rest hshort =>
      -- too few bytes for a word in either order
      have hlittle := words.eq_2 .little rest hshort
      have hbig := words.eq_2 .big rest hshort
      rw [hlittle, hbig]

theorem decode_turned (bytes : List UInt8) : decode .little (turned bytes) = decode .big bytes := by
  rw [decode, decode, length_turned, words_turned]

end Occupancy.Counts

namespace Occupancy.Loading

variable {files : FileSystem} {path : Path} {order : ByteOrder} {bytes : List UInt8} {counts : List UInt32}

theorem decodeCounts_eq_ok_iff :
    decodeCounts path order bytes = .ok counts ↔
      Counts.encode order counts = bytes ∧ ∀ c ∈ counts, c.toNat < 2 ^ 31 := by
  rw [← Counts.decode_eq_ok_iff, decodeCounts]
  cases Counts.decode order bytes with
  | error fault => exact ⟨nofun, nofun⟩
  | ok decoded => exact ⟨fun h => by cases h; rfl, fun h => by cases h; rfl⟩

/-- Counts that are read from a file are what the file encodes. -/
theorem readCounts_eq_ok_iff :
    readCounts files path order = .ok counts ↔
      files.read path = .ok (Counts.encode order counts) ∧ ∀ c ∈ counts, c.toNat < 2 ^ 31 := by
  rw [readCounts]
  cases files.read path with
  | error cause => exact ⟨nofun, fun h => nomatch h.1⟩
  | ok bytes =>
      show decodeCounts path order bytes = .ok counts ↔ _
      rw [decodeCounts_eq_ok_iff, Except.ok.injEq, eq_comm (a := bytes)]

/-- **Counts are read faithfully.** Bytes are accepted as some counts exactly if they are the encoding of these counts and
all of the counts are below `2 ^ 31`. Reading in big-endian order gives, faults included, what reading in little-endian
order gives when every group of four bytes is turned round. -/
theorem decodeCounts_faithful (path : Path) (bytes : List UInt8) :
    (∀ order counts, decodeCounts path order bytes = .ok counts ↔
      Counts.encode order counts = bytes ∧ ∀ c ∈ counts, c.toNat < 2 ^ 31) ∧
    decodeCounts path .big bytes = decodeCounts path .little (Counts.turned bytes) := by
  constructor
  · exact fun order counts => decodeCounts_eq_ok_iff
  · rw [decodeCounts, decodeCounts, Counts.decode_turned]

/-- The same eight bytes are other counts in the other order, which are those of the bytes turned round. -/
theorem decodeCounts_faithful_pair :
    decodeCounts ⟨"counts.bin"⟩ .little [1, 0, 0, 0, 0, 0, 2, 0] = .ok [1, 0x20000] ∧
    decodeCounts ⟨"counts.bin"⟩ .big [1, 0, 0, 0, 0, 0, 2, 0] = .ok [0x1000000, 0x200] ∧
    decodeCounts ⟨"counts.bin"⟩ .big [1, 0, 0, 0, 0, 0, 2, 0] =
      decodeCounts ⟨"counts.bin"⟩ .little [0, 0, 0, 1, 0, 2, 0, 0] := by
  obtain ⟨hcounts, hturned⟩ := decodeCounts_faithful ⟨"counts.bin"⟩ [1, 0, 0, 0, 0, 0, 2, 0]
  exact ⟨(hcounts .little _).mpr ⟨rfl, by simp⟩, (hcounts .big _).mpr ⟨rfl, by simp⟩, hturned⟩

end Occupancy.Loading
