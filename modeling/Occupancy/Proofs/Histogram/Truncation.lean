import Occupancy.Proofs.Histogram.Tally

/-! Histograms with a cap. Counting under a cap makes a table that ends at the cap and passes over the buckets above it;
cutting off a whole histogram at the cap gives the same table. No bucket above the cap is counted at another level, and of
two caps only the lower one matters. -/

namespace Occupancy.Histogram

variable {counts : List UInt32} {cap a b : UInt32} {n k : Nat}

/-! ### Caps of caps -/

theorem toNat_min (a b : UInt32) : (min a b).toNat = min a.toNat b.toNat := by
  have hmin : min a b = if a ≤ b then a else b := rfl
  rw [hmin]
  by_cases hle : a ≤ b
  · rw [if_pos hle, Nat.min_eq_left (UInt32.le_iff_toNat_le.mp hle)]
  · have hlt : ¬ a.toNat ≤ b.toNat := fun h => hle (UInt32.le_iff_toNat_le.mpr h)
    rw [if_neg hle, Nat.min_eq_right (by omega)]

theorem truncated_truncated (h : Histogram) (a b : UInt32) : (h.truncated a).truncated b = h.truncated (min a b) := by
  show (⟨(h.frequencies.take (a.toNat + 1)).take (b.toNat + 1)⟩ : Histogram) = ⟨h.frequencies.take ((min a b).toNat + 1)⟩
  rw [List.take_take, toNat_min]
  congr 2
  omega

theorem length_truncated_le (h : Histogram) (cap : UInt32) : (h.truncated cap).frequencies.length ≤ cap.toNat + 1 := by
  rw [truncated]
  exact List.length_take_le _ _

/-! ### Counting under a cap -/

/-- Cutting off the histogram of a table up to a level keeps the lower of that level and the cap. -/
theorem truncated_upTo_min (n : Nat) (counts : List UInt32) (cap : UInt32) :
    (upTo n counts).truncated cap = upTo (min cap.toNat n) counts := by
  refine congrArg Histogram.mk (List.ext_getElem? fun k => ?_)
  show ((upTo n counts).frequencies.take (cap.toNat + 1))[k]? = (upTo (min cap.toNat n) counts).frequencies[k]?
  rw [List.getElem?_take, getElem?_upTo, getElem?_upTo]
  by_cases hcap : k < cap.toNat + 1
  · rw [if_pos hcap]
    by_cases hn : k ≤ n
    · rw [if_pos hn, if_pos (by omega)]
    · rw [if_neg hn, if_neg (by omega)]
  · rw [if_neg hcap, if_neg (by omega)]

theorem toNat_topOf_some (h : counts ≠ []) (cap : UInt32) :
    (topOf (some cap) counts).toNat = min cap.toNat (topOf none counts).toNat := by
  obtain ⟨largest, hlargest⟩ := Option.isSome_iff_exists.mp (List.isSome_max?_of_ne_nil h)
  rw [topOf_none hlargest, ← toNat_min, topOf, hlargest]
  rfl

/-- Counting under a cap is counting without it and cutting off. -/
theorem ofCounts_some_eq_truncated (counts : List UInt32) (cap : UInt32) :
    ofCounts counts (some cap) = (ofCounts counts none).truncated cap := by
  by_cases hcounts : counts = []
  · subst hcounts
    exact congrArg Histogram.mk List.take_nil.symm
  · calc
      ofCounts counts (some cap) = upTo (topOf (some cap) counts).toNat counts := ofCounts_eq_upTo hcounts _
      _ = upTo (min cap.toNat (topOf none counts).toNat) counts := by rw [toNat_topOf_some hcounts]
      _ = (upTo (topOf none counts).toNat counts).truncated cap := (truncated_upTo_min _ _ _).symm
      _ = (ofCounts counts none).truncated cap := by rw [ofCounts_eq_upTo hcounts]

theorem le_topOf_none_iff (h : counts ≠ []) : k ≤ (topOf none counts).toNat ↔ ∃ c ∈ counts, k ≤ c.toNat := by
  constructor
  · intro hk
    exact ⟨topOf none counts, topOf_mem h, hk⟩
  · rintro ⟨c, hc, hk⟩
    exact Nat.le_trans hk (toNat_le_topOf counts c hc)

/-- The levels under a cap are those up to the cap that some bucket reaches, each with its own buckets only. -/
theorem getElem?_ofCounts_some (counts : List UInt32) (cap : UInt32) (k : Nat) :
    (ofCounts counts (some cap)).frequencies[k]? =
      if k ≤ cap.toNat ∧ ∃ c ∈ counts, k ≤ c.toNat then some (UInt64.ofNat (holding counts k)) else none := by
  by_cases hcounts : counts = []
  · subst hcounts
    rw [if_neg (by simp)]
    rfl
  · have hlevels : k ≤ min cap.toNat (topOf none counts).toNat ↔ k ≤ cap.toNat ∧ ∃ c ∈ counts, k ≤ c.toNat := by
      rw [Nat.le_min, le_topOf_none_iff hcounts]
    rw [ofCounts_eq_upTo hcounts, toNat_topOf_some hcounts, getElem?_upTo]
    simp only [hlevels]

/-- **Capped histograms.** Counting under a cap gives the histogram without the cap, cut off at the cap. Its levels do not go
beyond the cap; each of them has the buckets that are exactly at it, so that those above the cap are nowhere. Cutting off
twice is cutting off at the lower cap, and the same as counting under the lower cap. -/
theorem ofCounts_capped :
    (∀ counts cap, ofCounts counts (some cap) = (ofCounts counts none).truncated cap) ∧
    (∀ counts cap, (ofCounts counts (some cap)).frequencies.length ≤ cap.toNat + 1) ∧
    (∀ counts cap k, (ofCounts counts (some cap)).frequencies[k]? =
      if k ≤ cap.toNat ∧ ∃ c ∈ counts, k ≤ c.toNat then some (UInt64.ofNat (holding counts k)) else none) ∧
    (∀ (h : Histogram) a b, (h.truncated a).truncated b = h.truncated (min a b)) ∧
    ∀ counts a b, ((ofCounts counts none).truncated a).truncated b = ofCounts counts (some (min a b)) := by
  refine ⟨ofCounts_some_eq_truncated, ?_, getElem?_ofCounts_some, truncated_truncated, ?_⟩
  · intro counts cap
    rw [ofCounts_some_eq_truncated]
    exact length_truncated_le _ cap
  · intro counts a b
    rw [truncated_truncated, ofCounts_some_eq_truncated]

example : (ofCounts [0, 1, 1, 0x7fffffff] (some 3)).frequencies = [1, 2, 0, 0] := by decide +kernel

end Occupancy.Histogram
