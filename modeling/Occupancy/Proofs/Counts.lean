import Mathlib.Algebra.Group.Nat.Defs
import Occupancy.Counts

/-! Which arrays of counts are accepted. Every four bytes stand for one signed integer of 32 bits; an array without
bytes left over is refused exactly for its first negative integer, and otherwise its counts are its integers. -/

namespace Occupancy.Counts

variable {order : ByteOrder} {bytes : List UInt8} {ws : List UInt32} {word : UInt32} {index : Nat}

/-- The word at a position, counted in words. -/
def wordAt (order : ByteOrder) (bytes : List UInt8) (i : Nat) : UInt32 :=
  order.word (bytes.getD (4 * i) 0) (bytes.getD (4 * i + 1) 0) (bytes.getD (4 * i + 2) 0) (bytes.getD (4 * i + 3) 0)

/-- The integer at a position, in two's complement. -/
def countAt (order : ByteOrder) (bytes : List UInt8) (i : Nat) : Int := (wordAt order bytes i).toBitVec.toInt

theorem signed_eq_toInt (word : UInt32) : signed word = word.toBitVec.toInt := by
  have hword := word.toNat_lt
  rw [signed, isNegative, BitVec.toInt_eq_toNat_cond, UInt32.toNat_toBitVec]
  by_cases hnegative : 0x80000000 ≤ word.toNat
  · rw [decide_eq_true hnegative, if_pos rfl, if_neg (by omega)]
    rfl
  · rw [decide_eq_false hnegative, if_neg Bool.false_ne_true, if_pos (by omega)]

theorem isNegative_iff : isNegative word = true ↔ word.toBitVec.toInt < 0 := by
  rw [← signed_eq_toInt, signed]
  have hword := word.toNat_lt
  cases hnegative : isNegative word with
  | false =>
      rw [if_neg Bool.false_ne_true]
      exact ⟨nofun, fun hlt => absurd hlt (Int.not_lt.mpr (Int.natCast_nonneg _))⟩
  | true =>
      rw [if_pos rfl]
      refine ⟨fun _ => ?_, fun _ => rfl⟩
      omega

theorem toInt_of_nonneg (h : 0 ≤ word.toBitVec.toInt) : word.toBitVec.toInt = word.toNat := by
  have hnegative : isNegative word = false := by
    rw [Bool.eq_false_iff, Ne, isNegative_iff]
    omega
  rw [← signed_eq_toInt, signed, hnegative, if_neg Bool.false_ne_true]

theorem getElem?_words {i : Nat} (h : i < bytes.length / 4) :
    (words order bytes)[i]? = some (wordAt order bytes i) := by
  fun_induction words order bytes generalizing i with
  | case1 a b c d rest ih =>
      cases i with
      | zero => rfl
      | succ i =>
          rw [List.getElem?_cons_succ, ih (by simp only [List.length_cons] at h; omega)]
          rfl
  | case2 bytes hshort =>
      have hlength := length_words order bytes
      unfold words at hlength
      split at hlength
      · exact absurd rfl (hshort _ _ _ _ _)
      · rw [List.length_nil] at hlength
        omega

/-! ### The first negative word -/

theorem firstNegative?_eq_none_iff : firstNegative? ws = none ↔ ∀ w ∈ ws, isNegative w = false := by
  rw [firstNegative?, List.find?_eq_none]
  constructor
  · intro h w hw
    obtain ⟨i, hi⟩ := List.mem_iff_getElem?.mp hw
    exact Bool.eq_false_iff.mpr (h (w, i) (List.mk_mem_zipIdx_iff_getElem?.mpr hi))
  · rintro h ⟨w, i⟩ hw
    exact Bool.eq_false_iff.mp (h w (List.mem_of_getElem? (List.mk_mem_zipIdx_iff_getElem?.mp hw)))

theorem firstNegative?_eq_some_iff :
    firstNegative? ws = some (word, index) ↔
      ws[index]? = some word ∧ isNegative word = true ∧ ∀ j w, j < index → ws[j]? = some w → isNegative w = false := by
  rw [firstNegative?, List.find?_eq_some_iff_getElem]
  constructor
  · rintro ⟨hnegative, i, hi, heq, hfirst⟩
    rw [List.getElem_zipIdx, Nat.zero_add] at heq
    cases heq
    refine ⟨List.getElem?_eq_getElem _, hnegative, ?_⟩
    intro j w hj hw
    obtain ⟨hlt, rfl⟩ := List.getElem?_eq_some_iff.mp hw
    have hbefore := hfirst j hj
    rw [List.getElem_zipIdx, Bool.not_eq_true'] at hbefore
    exact hbefore
  · rintro ⟨hword, hnegative, hfirst⟩
    obtain ⟨hlt, rfl⟩ := List.getElem?_eq_some_iff.mp hword
    refine ⟨hnegative, index, by rw [List.length_zipIdx]; exact hlt, ?_, ?_⟩
    · rw [List.getElem_zipIdx, Nat.zero_add]
    · intro j hj
      rw [List.getElem_zipIdx, Bool.not_eq_true']
      exact hfirst j _ hj (List.getElem?_eq_getElem _)

/-! ### What decoding gives -/

/-- What becomes of bytes, by the integers that they stand for. -/
inductive Decodes (order : ByteOrder) (bytes : List UInt8) : Except Fault (List UInt32) → Prop
  | truncated (hcut : ¬4 ∣ bytes.length) : Decodes order bytes (.error (.truncated bytes.length))
  | negative {i : Nat} (hwhole : 4 ∣ bytes.length) (hi : i < bytes.length / 4)
      (hnegative : countAt order bytes i < 0) (hfirst : ∀ j < i, 0 ≤ countAt order bytes j) :
      Decodes order bytes (.error (.negative i (countAt order bytes i)))
  | counts {counts : List UInt32} (hwhole : 4 ∣ bytes.length) (hlength : counts.length = bytes.length / 4)
      (hcounts : ∀ i (hi : i < counts.length), (counts[i].toNat : Int) = countAt order bytes i) :
      Decodes order bytes (.ok counts)

theorem decodes_decode (order : ByteOrder) (bytes : List UInt8) : Decodes order bytes (decode order bytes) := by
  unfold decode
  by_cases hwhole : 4 ∣ bytes.length
  · rw [if_neg (by omega)]
    dsimp only
    cases hfound : firstNegative? (words order bytes) with
    | some found =>
        obtain ⟨word, index⟩ := found
        obtain ⟨hword, hnegative, hfirst⟩ := firstNegative?_eq_some_iff.mp hfound
        have hindex : index < bytes.length / 4 := length_words order bytes ▸ (List.getElem?_eq_some_iff.mp hword).1
        rw [getElem?_words hindex] at hword
        cases hword
        simp only [signed_eq_toInt]
        apply Decodes.negative hwhole hindex (isNegative_iff.mp hnegative)
        intro j hj
        have hbefore := hfirst j _ hj (getElem?_words (by omega))
        rw [Bool.eq_false_iff, Ne, isNegative_iff] at hbefore
        exact Int.not_lt.mp hbefore
    | none =>
        apply Decodes.counts hwhole (length_words order bytes)
        intro i hi
        have hword : (words order bytes)[i]? = some (wordAt order bytes i) :=
          getElem?_words (length_words order bytes ▸ hi)
        rw [List.getElem?_eq_getElem hi] at hword
        have hnonneg := firstNegative?_eq_none_iff.mp hfound _ (List.getElem_mem hi)
        rw [Bool.eq_false_iff, Ne, isNegative_iff] at hnonneg
        rw [countAt, ← Option.some.inj hword, toInt_of_nonneg (Int.not_lt.mp hnonneg)]
  · rw [if_pos (by omega)]
    exact .truncated hwhole

/-- Of two things that become of the same bytes neither is another one. -/
theorem Decodes.unique {r s : Except Fault (List UInt32)} (hr : Decodes order bytes r) (hs : Decodes order bytes s) :
    r = s := by
  cases hr with
  | truncated hcut =>
      cases hs with
      | truncated => rfl
      | negative hwhole => exact absurd hwhole hcut
      | counts hwhole => exact absurd hwhole hcut
  | @negative i hwhole hi hnegative hfirst =>
      cases hs with
      | truncated hcut => exact absurd hwhole hcut
      | @negative j _ hj hother hbefore =>
          -- of two first negative integers neither comes before the other
          rcases Nat.lt_trichotomy i j with hlt | rfl | hlt
          · exact absurd (hbefore i hlt) (Int.not_le.mpr hnegative)
          · rfl
          · exact absurd (hfirst j hlt) (Int.not_le.mpr hother)
      | counts _ hlength hcounts =>
          have hcount := hcounts i (by omega)
          omega
  | @counts counts hwhole hlength hcounts =>
      cases hs with
      | truncated hcut => exact absurd hwhole hcut
      | @negative i _ hi hnegative =>
          have hcount := hcounts i (by omega)
          omega
      | @counts others _ hother hothers =>
          congr 1
          apply List.ext_getElem (by omega)
          intro i hi hi'
          apply UInt32.toNat_inj.mp
          have hsame := (hcounts i hi).trans (hothers i hi').symm
          omega

theorem decode_eq_iff {r : Except Fault (List UInt32)} : decode order bytes = r ↔ Decodes order bytes r :=
  ⟨fun h => h ▸ decodes_decode order bytes, fun h => (decodes_decode order bytes).unique h⟩

/-- The bytes of counts stand for the counts. -/
theorem decode_encode {counts : List UInt32} (h : ∀ c ∈ counts, c.toNat < 2 ^ 31) :
    decode order (encode order counts) = .ok counts := by
  have hwhole : ¬(encode order counts).length % 4 ≠ 0 := by
    rw [length_encode]
    omega
  have hnone : firstNegative? counts = none := by
    rw [firstNegative?_eq_none_iff]
    intro c hc
    exact decide_eq_false (Nat.not_le.mpr (h c hc))
  rw [decode, if_neg hwhole, words_encode]
  simp only [hnone]

end Occupancy.Counts
