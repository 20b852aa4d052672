import Mathlib
import Occupancy.Proofs.Histogram.Truncation

/-! What histograms preserve. Each bucket is counted at one level, so the frequencies add up to the number of buckets, and
the frequencies weighted with their levels to the number of items in them. Under a cap this holds of the buckets up to the
cap. -/

namespace Occupancy.Histogram

variable {counts : List UInt32} {n k : Nat}

/-- The number of items in the buckets that a histogram counts: each level times its frequency. -/
def items (h : Histogram) : Nat := (h.pairs.map fun (level, frequency) => level.toNat * frequency.toNat).sum

/-- The number of items in buckets with at most `n` items. -/
def itemsUpTo (counts : List UInt32) (n : Nat) : Nat := ((counts.filter (·.toNat ≤ n)).map UInt32.toNat).sum

/-! ### Items level by level -/

theorem itemsUpTo_cons (c : UInt32) (counts : List UInt32) (n : Nat) :
    itemsUpTo (c :: counts) n = (if c.toNat ≤ n then c.toNat else 0) + itemsUpTo counts n := by
  by_cases hc : c.toNat ≤ n
  · rw [itemsUpTo, List.filter_cons_of_pos (by simpa using hc), List.map_cons, List.sum_cons, if_pos hc, itemsUpTo]
  · rw [itemsUpTo, List.filter_cons_of_neg (by simpa using hc), if_neg hc, Nat.zero_add, itemsUpTo]

theorem itemsUpTo_zero (counts : List UInt32) : itemsUpTo counts 0 = 0 := by
  induction counts with
  | nil => rfl
  | cons c counts ih =>
      rw [itemsUpTo_cons, ih]
      split <;> omega

/-- One more level adds the items of the buckets at it. -/
theorem itemsUpTo_succ (counts : List UInt32) (n : Nat) :
    itemsUpTo counts (n + 1) = itemsUpTo counts n + (n + 1) * holding counts (n + 1) := by
  induction counts with
  | nil => rfl
  | cons c counts ih =>
      rw [itemsUpTo_cons, itemsUpTo_cons, holding_cons, ih, Nat.mul_add]
      by_cases hlevel : c.toNat = n + 1
      · rw [if_pos (by omega), if_neg (by omega), if_pos hlevel]
        omega
      · rw [if_neg hlevel]
        by_cases hbelow : c.toNat ≤ n
        · rw [if_pos (by omega), if_pos hbelow]
          omega
        · rw [if_neg (by omega), if_neg hbelow]
          omega

theorem sum_levels (counts : List UInt32) (n : Nat) :
    ((List.range (n + 1)).map fun k => k * holding counts k).sum = itemsUpTo counts n := by
  induction n with
  | zero =>
      show 0 * holding counts 0 + 0 = itemsUpTo counts 0
      rw [itemsUpTo_zero, Nat.zero_mul]
  | succ n ih =>
      rw [List.range_succ, List.map_append, List.sum_append, ih, itemsUpTo_succ]
      simp only [List.map_cons, List.map_nil, List.sum_cons, List.sum_nil, Nat.add_zero]

/-! ### Histograms up to a level -/

theorem holding_le_holdingUpTo (counts : List UInt32) (h : k ≤ n) : holding counts k ≤ holdingUpTo counts n := by
  refine List.countP_mono_left fun c _ hc => ?_
  have hc : c.toNat = k := by simpa using hc
  exact decide_eq_true (by omega)

theorem pairs_upTo (n : Nat) (counts : List UInt32) :
    (upTo n counts).pairs =
      (List.range (n + 1)).map fun k => (UInt32.ofNat k, UInt64.ofNat (holding counts k)) := by
  rw [pairs, levels, length_upTo, upTo]
  exact List.zip_map'

/-- The items of a histogram up to a level are those in the buckets up to the level. -/
theorem items_upTo (hn : n < 2 ^ 32) (hlimit : holdingUpTo counts n < 2 ^ 64) :
    (upTo n counts).items = itemsUpTo counts n := by
  rw [items, pairs_upTo, List.map_map, ← sum_levels]
  congr 1
  apply List.map_congr_left
  intro k hk
  have hle : k ≤ n := Nat.le_of_lt_succ (List.mem_range.mp hk)
  have hlevel : (UInt32.ofNat k).toNat = k := UInt32.toNat_ofNat_of_lt' (by rw [UInt32.size]; omega)
  have hfrequency : (UInt64.ofNat (holding counts k)).toNat = holding counts k :=
    UInt64.toNat_ofNat_of_lt' (Nat.lt_of_le_of_lt (holding_le_holdingUpTo counts hle) hlimit)
  show (UInt32.ofNat k).toNat * (UInt64.ofNat (holding counts k)).toNat = k * holding counts k
  rw [hlevel, hfrequency]

/-! ### Conservation -/

/-- A histogram accounts for some buckets: it counts each of them once and has as many items as they hold. A total is counted
with 64 bits, which are enough for fewer than `2 ^ 64` buckets. -/
structure Accounts (h : Histogram) (buckets : List UInt32) : Prop where
  total : buckets.length < 2 ^ 64 → h.total.map UInt64.toNat = .ok buckets.length
  items : buckets.length < 2 ^ 64 → h.items = (buckets.map UInt32.toNat).sum

theorem accounts_upTo (hn : n < 2 ^ 32) (counts : List UInt32) :
    Accounts (upTo n counts) (counts.filter (·.toNat ≤ n)) := by
  have hlength : (counts.filter (·.toNat ≤ n)).length = holdingUpTo counts n := List.countP_eq_length_filter.symm
  constructor
  · intro hlimit
    rw [hlength] at hlimit ⊢
    rw [total_upTo hlimit, Except.map, UInt64.toNat_ofNat_of_lt' hlimit]
  · intro hlimit
    rw [hlength] at hlimit
    exact items_upTo hn hlimit

theorem accounts_empty : Accounts empty [] := ⟨fun _ => rfl, fun _ => rfl⟩

/-- **Buckets and items are conserved.** The histogram of a table accounts for all of its buckets, and under a cap for those
that hold no more items than the cap. -/
theorem ofCounts_accounts (counts : List UInt32) :
    Accounts (ofCounts counts none) counts ∧
    ∀ cap : UInt32, Accounts (ofCounts counts (some cap)) (counts.filter (· ≤ cap)) := by
  by_cases hcounts : counts = []
  · subst hcounts
    exact ⟨accounts_empty, fun _ => accounts_empty⟩
  · constructor
    · have hall : counts.filter (·.toNat ≤ (topOf none counts).toNat) = counts :=
        List.filter_eq_self.mpr fun c hc => decide_eq_true (toNat_le_topOf counts c hc)
      have haccounts := accounts_upTo (topOf none counts).toNat_lt counts
      rw [hall] at haccounts
      rw [ofCounts_eq_upTo hcounts]
      exact haccounts
    · intro cap
      -- a bucket up to the cap is up to the last level as well, which no bucket is above
      have hkept : counts.filter (·.toNat ≤ (topOf (some cap) counts).toNat) = counts.filter (· ≤ cap) := by
        apply List.filter_congr
        intro c hc
        have hle := toNat_le_topOf counts c hc
        rw [toNat_topOf_some hcounts, decide_eq_decide, UInt32.le_iff_toNat_le]
        omega
      have haccounts := accounts_upTo (topOf (some cap) counts).toNat_lt counts
      rw [hkept] at haccounts
      rw [ofCounts_eq_upTo hcounts]
      exact haccounts

/-- Of seven buckets with ten items, six hold at most two, and these five together. -/
theorem ofCounts_accounts_gap :
    (ofCounts [0, 2, 1, 2, 0, 0, 5] none).total.map UInt64.toNat = .ok 7 ∧
    (ofCounts [0, 2, 1, 2, 0, 0, 5] none).items = 10 ∧
    (ofCounts [0, 2, 1, 2, 0, 0, 5] (some 2)).total.map UInt64.toNat = .ok 6 ∧
    (ofCounts [0, 2, 1, 2, 0, 0, 5] (some 2)).items = 5 := by
  obtain ⟨hall, hcapped⟩ := ofCounts_accounts [0, 2, 1, 2, 0, 0, 5]
  exact ⟨hall.total (by decide), hall.items (by decide), (hcapped 2).total (by decide), (hcapped 2).items (by decide)⟩

end Occupancy.Histogram
