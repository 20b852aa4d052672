import Occupancy.Proofs.Histogram

/-! The histogram of a table of buckets without a cap. It has a level for each number of items up to the largest, and at
each level the number of the buckets that hold exactly so many. So it does not matter in what order the buckets come, and
the histograms of two tables add up to that of both, level by level. -/

namespace Occupancy.Histogram

variable {counts others : List UInt32} {largest : UInt32} {n m k : Nat}

/-! ### Single levels -/

theorem getElem?_upTo (n : Nat) (counts : List UInt32) (k : Nat) :
    (upTo n counts).frequencies[k]? = if k ≤ n then some (UInt64.ofNat (holding counts k)) else none := by
  rw [upTo, List.getElem?_map]
  by_cases hk : k ≤ n
  · rw [if_pos hk, List.getElem?_range (Nat.lt_succ_of_le hk), Option.map_some]
  · rw [if_neg hk, List.getElem?_eq_none (by simp; omega), Option.map_none]

theorem levels_upTo (h : n < 2 ^ 32) (counts : List UInt32) :
    (upTo n counts).levels.map UInt32.toNat = List.range (n + 1) := by
  rw [toNat_levels (by rw [length_upTo]; exact h), length_upTo]

/-- A number of buckets can be counted if the buckets can be. -/
theorem toNat_holding (h : counts.length < 2 ^ 64) (k : Nat) :
    (UInt64.ofNat (holding counts k)).toNat = holding counts k :=
  UInt64.toNat_ofNat_of_lt' (Nat.lt_of_le_of_lt List.countP_le_length h)

theorem holding_pos_iff : 0 < holding counts k ↔ ∃ c ∈ counts, c.toNat = k := by
  simp only [holding, List.countP_pos_iff, decide_eq_true_eq]

theorem holding_eq_zero (h : ∀ c ∈ counts, c.toNat ≤ n) (hk : n < k) : holding counts k = 0 := by
  rw [holding, List.countP_eq_zero]
  intro c hc
  have hle := h c hc
  simp only [decide_eq_true_eq]
  omega

theorem holding_append (counts others : List UInt32) (k : Nat) :
    holding (counts ++ others) k = holding counts k + holding others k := List.countP_append

theorem holding_of_perm (h : others.Perm counts) (k : Nat) : holding others k = holding counts k := h.countP_eq _

/-! ### The largest level -/

/-- The maximum of two counts is one of them, and what is above both is above it. -/
instance : Std.LawfulOrderMax UInt32 where
  max_eq_or a b := by
    have hmax : max a b = if a ≤ b then b else a := rfl
    rw [hmax]
    split
    · exact Or.inr rfl
    · exact Or.inl rfl
  max_le_iff a b c := by
    have hmax : max a b = if a ≤ b then b else a := rfl
    rw [hmax]
    simp only [UInt32.le_iff_toNat_le]
    split <;> omega

/-- The largest count is one of the counts, and none is above it. -/
theorem max?_eq_some_iff_toNat :
    counts.max? = some largest ↔ largest ∈ counts ∧ ∀ c ∈ counts, c.toNat ≤ largest.toNat := by
  simp only [List.max?_eq_some_iff, UInt32.le_iff_toNat_le]

theorem max?_of_perm (h : others.Perm counts) : others.max? = counts.max? := by
  apply Option.ext
  intro largest
  simp only [max?_eq_some_iff_toNat, h.mem_iff]

theorem topOf_none (h : counts.max? = some largest) : topOf none counts = largest := by rw [topOf, h]; rfl

theorem topOf_mem (h : counts ≠ []) : topOf none counts ∈ counts := by
  obtain ⟨largest, hlargest⟩ := Option.isSome_iff_exists.mp (List.isSome_max?_of_ne_nil h)
  rw [topOf_none hlargest]
  exact (max?_eq_some_iff_toNat.mp hlargest).1

theorem toNat_le_topOf (counts : List UInt32) : ∀ c ∈ counts, c.toNat ≤ (topOf none counts).toNat := by
  intro c hc
  obtain ⟨largest, hlargest⟩ := Option.isSome_iff_exists.mp (List.isSome_max?_of_ne_nil (List.ne_nil_of_mem hc))
  rw [topOf_none hlargest]
  exact (max?_eq_some_iff_toNat.mp hlargest).2 c hc

/-- The larger of two largest counts is the largest of all. -/
theorem toNat_topOf_append (hcounts : counts ≠ []) (hothers : others ≠ []) :
    (topOf none (counts ++ others)).toNat = max (topOf none counts).toNat (topOf none others).toNat := by
  have hfirst := toNat_le_topOf (counts ++ others) _ (List.mem_append_left _ (topOf_mem hcounts))
  have hsecond := toNat_le_topOf (counts ++ others) _ (List.mem_append_right _ (topOf_mem hothers))
  rcases List.mem_append.mp (topOf_mem (List.append_ne_nil_of_left_ne_nil hcounts others)) with hmem | hmem
  · have hle := toNat_le_topOf counts _ hmem
    omega
  · have hle := toNat_le_topOf others _ hmem
    omega

/-! ### Sums -/

/-- The sum of two histograms level by level. At the levels that only one of them has, the other one counts as zero. -/
def plus (h g : Histogram) : Histogram :=
  ⟨List.zipWithAll (fun a b => a.getD 0 + b.getD 0) h.frequencies g.frequencies⟩

theorem plus_upTo (hcounts : ∀ c ∈ counts, c.toNat ≤ n) (hothers : ∀ c ∈ others, c.toNat ≤ m) :
    (upTo n counts).plus (upTo m others) = upTo (max n m) (counts ++ others) := by
  refine congrArg Histogram.mk (List.ext_getElem? fun k => ?_)
  rw [List.getElem?_zipWithAll, getElem?_upTo, getElem?_upTo]
  have hsum := getElem?_upTo (max n m) (counts ++ others) k
  rw [upTo] at hsum
  rw [hsum, holding_append, UInt64.ofNat_add]
  by_cases hn : k ≤ n <;> by_cases hm : k ≤ m
  · rw [if_pos hn, if_pos hm, if_pos (by omega)]
    rfl
  · rw [if_pos hn, if_neg hm, if_pos (by omega), holding_eq_zero hothers (by omega)]
    rfl
  · rw [if_neg hn, if_pos hm, if_pos (by omega), holding_eq_zero hcounts (by omega)]
    rfl
  · rw [if_neg hn, if_neg hm, if_neg (by omega)]

/-! ### The histogram of a table -/

/-- A histogram tells how many buckets of a table are at each level: its levels go from zero to the largest number of
items, each of them once. Numbers of buckets are counted with 64 bits, which is exact for every table that has fewer than
`2 ^ 64` buckets; then a bucket is counted at the last level. -/
structure Tallies (h : Histogram) (counts : List UInt32) (largest : UInt32) : Prop where
  top : h.maxK = some largest
  length : h.frequencies.length = largest.toNat + 1
  frequency : ∀ k ≤ largest.toNat, h.frequencies[k]? = some (UInt64.ofNat (holding counts k))
  number : counts.length < 2 ^ 64 → ∀ k ≤ largest.toNat, h.frequencies[k]?.map UInt64.toNat = some (holding counts k)
  last : counts.length < 2 ^ 64 → ∃ f, h.frequencies.getLast? = some f ∧ 0 < f
  levels : h.pairs.map (fun pair => pair.1.toNat) = List.range (largest.toNat + 1)
  values : h.pairs.map Prod.snd = h.frequencies

theorem tallies_upTo (hmem : largest ∈ counts) : Tallies (upTo largest.toNat counts) counts largest where
  top := maxK_upTo largest counts
  length := length_upTo _ counts
  frequency k hk := by rw [getElem?_upTo, if_pos hk]
  number hlimit k hk := by rw [getElem?_upTo, if_pos hk, Option.map_some, toNat_holding hlimit]
  last hlimit := by
    refine ⟨UInt64.ofNat (holding counts largest.toNat), ?_, ?_⟩
    · rw [List.getLast?_eq_getElem?, length_upTo, getElem?_upTo, if_pos (by omega)]
      rfl
    · rw [UInt64.lt_iff_toNat_lt, toNat_holding hlimit]
      exact holding_pos_iff.mpr ⟨largest, hmem, rfl⟩
  levels := by
    have hfst : (upTo largest.toNat counts).pairs.map Prod.fst = (upTo largest.toNat counts).levels :=
      List.map_fst_zip (Nat.le_of_eq (length_levels _))
    rw [← levels_upTo largest.toNat_lt counts, ← hfst, List.map_map]
    rfl
  values := List.map_snd_zip (Nat.le_of_eq (length_levels _).symm)

/-- The order of the buckets does not matter, under any cap. -/
theorem ofCounts_of_perm (h : others.Perm counts) (cap : Option UInt32) : ofCounts others cap = ofCounts counts cap := by
  by_cases hcounts : counts = []
  · subst hcounts
    rw [h.eq_nil]
  · have hothers : others ≠ [] := fun hnil => hcounts (hnil ▸ h).nil_eq.symm
    rw [ofCounts_eq_upTo hothers, ofCounts_eq_upTo hcounts, topOf, topOf, max?_of_perm h, upTo, upTo]
    simp only [holding_of_perm h]

theorem ofCounts_append (hcounts : counts ≠ []) (hothers : others ≠ []) :
    ofCounts (counts ++ others) none = (ofCounts counts none).plus (ofCounts others none) := by
  rw [ofCounts_eq_upTo (List.append_ne_nil_of_left_ne_nil hcounts others), ofCounts_eq_upTo hcounts,
    ofCounts_eq_upTo hothers, toNat_topOf_append hcounts hothers, plus_upTo (toNat_le_topOf counts) (toNat_le_topOf others)]

/-- **The histogram of a table of buckets.** It tells how many buckets are at each level up to the largest, and without
buckets it has no levels. The order of the buckets makes no difference to it, and the histogram of two tables is the sum
of theirs. -/
theorem ofCounts_tallies :
    ofCounts [] none = empty ∧
    (∀ counts ≠ [], ∃ largest, counts.max? = some largest ∧ Tallies (ofCounts counts none) counts largest) ∧
    (∀ counts others : List UInt32, others.Perm counts → ofCounts others none = ofCounts counts none) ∧
    ∀ counts others, counts ≠ [] → others ≠ [] →
      ofCounts (counts ++ others) none = (ofCounts counts none).plus (ofCounts others none) := by
  refine ⟨rfl, ?_, fun counts others h => ofCounts_of_perm h none, fun counts others => ofCounts_append⟩
  intro counts hcounts
  obtain ⟨largest, hlargest⟩ := Option.isSome_iff_exists.mp (List.isSome_max?_of_ne_nil hcounts)
  refine ⟨largest, hlargest, ?_⟩
  rw [ofCounts_eq_upTo hcounts, topOf_none hlargest]
  exact tallies_upTo (List.max?_mem hlargest)

/-- Seven buckets, of which three are empty, and no bucket holds three or four items. -/
theorem ofCounts_tallies_gap :
    (∃ largest, [0, 2, 1, 2, 0, 0, 5].max? = some largest ∧
      Tallies (ofCounts [0, 2, 1, 2, 0, 0, 5] none) [0, 2, 1, 2, 0, 0, 5] largest) ∧
    ofCounts [5, 0, 1] none = ofCounts [0, 1, 5] none ∧
    ofCounts ([0, 1] ++ [5]) none = (ofCounts [0, 1] none).plus (ofCounts [5] none) := by
  obtain ⟨-, htallies, hperm, hsum⟩ := ofCounts_tallies
  exact ⟨htallies _ (by decide), hperm _ _ (by decide), hsum _ _ (by decide) (by decide)⟩

example : (ofCounts [0, 2, 1, 2, 0, 0, 5] none).frequencies = [3, 1, 2, 0, 0, 1] := by decide +kernel

end Occupancy.Histogram
