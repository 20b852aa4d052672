import Occupancy.Histogram.Alignment
import Occupancy.Histogram.Fractions
import Occupancy.Proofs.Checked

/-! What histograms say about a table of buckets. Tallying adds to each level that the histogram has one for every bucket
at that level, and the levels reach up to the largest count or the cap. Aligned histograms are those of the same tables
up to one common level. -/

namespace Occupancy.Histogram

variable {counts : List UInt32} {n k : Nat} {top : UInt32}

/-- The number of buckets that hold exactly `k` items. -/
def holding (counts : List UInt32) (k : Nat) : Nat := counts.countP (·.toNat = k)

/-- The number of buckets that hold at most `k` items. -/
def holdingUpTo (counts : List UInt32) (k : Nat) : Nat := counts.countP (·.toNat ≤ k)

/-- The largest level of the histogram of a table of buckets. -/
def topOf (cap : Option UInt32) (counts : List UInt32) : UInt32 := topLevel cap (counts.max?.getD 0)

/-- The histogram of a table of buckets up to a level. -/
def upTo (n : Nat) (counts : List UInt32) : Histogram :=
  ⟨(List.range (n + 1)).map fun k => UInt64.ofNat (holding counts k)⟩

/-! ### The sum and the total -/

/-- The sum of all frequencies as a natural number, which has no limit. -/
def sum (h : Histogram) : Nat := (h.frequencies.map UInt64.toNat).sum

theorem total_of_lt {h : Histogram} (hsum : h.sum < 2 ^ 64) : h.total = .ok (UInt64.ofNat h.sum) :=
  Checked.sum_of_lt hsum

/-- Where 64 bits cannot hold the sum there is no total. -/
theorem total_of_le {h : Histogram} (hsum : 2 ^ 64 ≤ h.sum) : h.total = .error .add := Checked.sum_of_le hsum

theorem sum_le_of_front {g h : Histogram} (hfront : g.frequencies <+: h.frequencies) : g.sum ≤ h.sum := by
  obtain ⟨rest, hrest⟩ := hfront
  rw [sum, sum, ← hrest, List.map_append, List.sum_append]
  exact Nat.le_add_right _ _

/-! ### Tallying -/

theorem holding_cons (c : UInt32) (counts : List UInt32) (k : Nat) :
    holding (c :: counts) k = holding counts k + if c.toNat = k then 1 else 0 := by
  simp only [holding, List.countP_cons, decide_eq_true_eq]

theorem getElem?_tally (table : Array UInt64) (c : UInt32) (k : Nat) :
    (tally table c)[k]? = table[k]?.map (· + UInt64.ofNat (if c.toNat = k then 1 else 0)) := by
  rw [tally, Array.getElem?_modify]
  by_cases hk : c.toNat = k
  · rw [if_pos hk, if_pos hk]
    rfl
  · rw [if_neg hk, if_neg hk]
    have hzero : (· + UInt64.ofNat 0) = (id : UInt64 → UInt64) := funext UInt64.add_zero
    rw [hzero, Option.map_id, id]

/-- Each entry of a table grows by the number of buckets at its level. -/
theorem getElem?_foldl_tally (counts : List UInt32) (table : Array UInt64) (k : Nat) :
    (counts.foldl tally table)[k]? = table[k]?.map (· + UInt64.ofNat (holding counts k)) := by
  induction counts generalizing table with
  | nil =>
      have hzero : (· + UInt64.ofNat (holding [] k)) = (id : UInt64 → UInt64) := funext UInt64.add_zero
      rw [hzero, Option.map_id, id, List.foldl_nil]
  | cons c counts ih =>
      rw [List.foldl_cons, ih, getElem?_tally, Option.map_map]
      congr 1
      funext entry
      rw [Function.comp, holding_cons, UInt64.ofNat_add, UInt64.add_assoc,
        UInt64.add_comm (UInt64.ofNat (if c.toNat = k then 1 else 0))]

theorem ofCounts_eq_upTo (h : counts ≠ []) (cap : Option UInt32) :
    ofCounts counts cap = upTo (topOf cap counts).toNat counts := by
  obtain ⟨largest, hlargest⟩ : ∃ largest, counts.max? = some largest :=
    Option.isSome_iff_exists.mp (List.isSome_max?_of_ne_nil h)
  have htop : topOf cap counts = topLevel cap largest := by rw [topOf, hlargest, Option.getD_some]
  rw [ofCounts, hlargest, htop]
  refine congrArg Histogram.mk (List.ext_getElem? fun k => ?_)
  rw [Array.getElem?_toList, getElem?_foldl_tally, Array.getElem?_replicate, List.getElem?_map]
  by_cases hk : k < (topLevel cap largest).toNat + 1
  · rw [if_pos hk, List.getElem?_range hk, Option.map_some, Option.map_some, UInt64.zero_add]
  · have hlength : (List.range ((topLevel cap largest).toNat + 1)).length ≤ k := by
      rw [List.length_range]
      exact Nat.not_lt.mp hk
    rw [if_neg hk, List.getElem?_eq_none hlength]
    rfl

/-! ### Levels -/

theorem length_upTo (n : Nat) (counts : List UInt32) : (upTo n counts).frequencies.length = n + 1 := by
  rw [upTo, List.length_map, List.length_range]

theorem maxK_of_length {h : Histogram} (hlength : h.frequencies.length = top.toNat + 1) : h.maxK = some top := by
  rw [maxK, hlength]
  exact congrArg some UInt32.ofNat_toNat

theorem maxK_upTo (top : UInt32) (counts : List UInt32) : (upTo top.toNat counts).maxK = some top :=
  maxK_of_length (length_upTo _ counts)

/-- The largest level is one of the levels. -/
theorem lt_length_of_maxK {h : Histogram} (hm : h.maxK = some top) : top.toNat < h.frequencies.length := by
  rw [maxK] at hm
  split at hm
  · cases hm
  · rename_i n hlength
    cases hm
    rw [hlength, UInt32.toNat_ofNat']
    exact Nat.lt_succ_of_le (Nat.mod_le n _)

/-- Where levels are 32-bit numbers, there is one level more than the number of the largest. -/
theorem length_of_maxK {h : Histogram} (hlevels : h.frequencies.length ≤ 2 ^ 32) (hm : h.maxK = some top) :
    h.frequencies.length = top.toNat + 1 := by
  rw [maxK] at hm
  split at hm
  · cases hm
  · rename_i n hlength
    cases hm
    rw [hlength, UInt32.toNat_ofNat_of_lt' (by rw [UInt32.size]; omega)]

theorem exists_maxK {h : Histogram} (hne : h.frequencies ≠ []) : ∃ top, h.maxK = some top := by
  cases htop : h.maxK with
  | none => exact absurd (maxK_eq_none_iff.mp htop) hne
  | some top => exact ⟨top, rfl⟩

/-- Where levels are 32-bit numbers, they count up from zero. -/
theorem toNat_levels {h : Histogram} (hlevels : h.frequencies.length ≤ 2 ^ 32) :
    h.levels.map UInt32.toNat = List.range h.frequencies.length := by
  rw [levels, List.map_map]
  calc
    _ = (List.range h.frequencies.length).map id := List.map_congr_left fun k hk => by
      have hlt : k < h.frequencies.length := List.mem_range.mp hk
      exact UInt32.toNat_ofNat_of_lt' (by rw [UInt32.size]; omega)
    _ = List.range h.frequencies.length := List.map_id _

theorem toNat_maxK {h : Histogram} (hlevels : h.frequencies.length ≤ 2 ^ 32) :
    h.maxK.map UInt32.toNat = (List.range h.frequencies.length).getLast? := by
  cases hmaxK : h.maxK with
  | none =>
      rw [maxK_eq_none_iff.mp hmaxK]
      rfl
  | some top =>
      rw [length_of_maxK hlevels hmaxK, List.range_succ, List.getLast?_concat]
      rfl

theorem getElem?_pairs {h : Histogram} {f : UInt64} (hk : h.frequencies[k]? = some f) :
    h.pairs[k]? = some (UInt32.ofNat k, f) := by
  have hlt : k < h.frequencies.length := (List.getElem?_eq_some_iff.mp hk).1
  rw [pairs, List.zip, List.getElem?_zipWith, levels, List.getElem?_map, List.getElem?_range hlt, hk]
  rfl

/-- One bucket at each level, and one level more than 32-bit numbers can tell apart. -/
def wide : Histogram := ⟨List.replicate (2 ^ 32 + 1) 1⟩

theorem length_wide : wide.frequencies.length = 2 ^ 32 + 1 := List.length_replicate

theorem frequencies_wide_ne_nil : wide.frequencies ≠ [] := by
  rw [← List.length_pos_iff, length_wide]
  exact Nat.succ_pos _

theorem maxK_wide : wide.maxK = some 0 := by
  rw [maxK, length_wide]
  rfl

theorem length_truncated {h : Histogram} (hlength : h.frequencies.length = n + 1) (htop : top.toNat ≤ n) :
    (h.truncated top).frequencies.length = top.toNat + 1 := by
  rw [truncated, List.length_take, hlength]
  omega

theorem pairs_truncated (h : Histogram) (top : UInt32) : (h.truncated top).pairs = h.pairs.take (top.toNat + 1) := by
  have hlevels : (h.truncated top).levels = h.levels.take (top.toNat + 1) := by
    rw [levels, levels, truncated, List.length_take, ← List.map_take, List.take_range]
  rw [pairs, pairs, hlevels, truncated, List.zip, List.take_zipWith]

theorem truncated_upTo (h : top.toNat ≤ n) (counts : List UInt32) : (upTo n counts).truncated top = upTo top.toNat counts := by
  rw [truncated, upTo, ← List.map_take, List.take_range, Nat.min_eq_left (by omega), upTo]

section Alignment

variable {β : Type} {tables : List β} {counts : β → List UInt32} {cap : β → Option UInt32}

theorem map_ofCounts (h : ∀ t ∈ tables, counts t ≠ []) :
    (tables.map fun t => ofCounts (counts t) (cap t)) =
      tables.map fun t => upTo (topOf (cap t) (counts t)).toNat (counts t) :=
  List.map_congr_left fun t ht => ofCounts_eq_upTo (h t ht) (cap t)

theorem commonMaxK_ofCounts (h : ∀ t ∈ tables, counts t ≠ []) :
    commonMaxK (tables.map fun t => ofCounts (counts t) (cap t)) = (tables.map fun t => topOf (cap t) (counts t)).min? := by
  have htops : (maxK ∘ fun t => upTo (topOf (cap t) (counts t)).toNat (counts t)) =
      some ∘ fun t => topOf (cap t) (counts t) := funext fun t => maxK_upTo _ (counts t)
  rw [commonMaxK, map_ofCounts h, List.filterMap_map, htops, List.filterMap_eq_map]

/-- Aligned histograms reach up to the smallest of the largest levels, whatever cap each of them has. -/
theorem align_ofCounts (cap : β → Option UInt32) (h : ∀ t ∈ tables, counts t ≠ [])
    (htop : (tables.map fun t => topOf (cap t) (counts t)).min? = some top) :
    align (tables.map fun t => ofCounts (counts t) (cap t)) = tables.map fun t => upTo top.toNat (counts t) := by
  rw [align, commonMaxK_ofCounts h, htop, map_ofCounts h]
  simp only [List.map_map]
  refine List.map_congr_left fun t ht => ?_
  have hle : top ≤ topOf (cap t) (counts t) := (List.min?_eq_some_iff.mp htop).2 _ (List.mem_map_of_mem ht)
  exact truncated_upTo (UInt32.le_iff_toNat_le.mp hle) (counts t)

end Alignment

/-- An aligned histogram is a front part of one that was to be aligned, and has a level if that one has any. -/
theorem exists_of_mem_align {hs : List Histogram} {aligned : Histogram} (hmem : aligned ∈ align hs) :
    ∃ h ∈ hs, aligned.frequencies <+: h.frequencies ∧ (h.frequencies ≠ [] → aligned.frequencies ≠ []) := by
  rw [align] at hmem
  split at hmem
  · exact ⟨aligned, hmem, List.prefix_rfl, id⟩
  · obtain ⟨h, hh, rfl⟩ := List.mem_map.mp hmem
    refine ⟨h, hh, List.take_prefix _ _, fun hne => ?_⟩
    rw [truncated, ne_eq, List.take_eq_nil_iff, not_or]
    exact ⟨Nat.succ_ne_zero _, hne⟩

/-! ### Totals -/

theorem holdingUpTo_succ (counts : List UInt32) (k : Nat) :
    holdingUpTo counts (k + 1) = holdingUpTo counts k + holding counts (k + 1) := by
  induction counts with
  | nil => rfl
  | cons c counts ih =>
      simp only [holdingUpTo, holding, List.countP_cons, decide_eq_true_eq] at ih ⊢
      rw [ih]
      split <;> split <;> split <;> omega

theorem holdingUpTo_zero (counts : List UInt32) : holdingUpTo counts 0 = holding counts 0 := by
  simp only [holdingUpTo, holding, Nat.le_zero]

/-- The frequencies of a histogram add up to the number of buckets up to its largest level. -/
theorem sum_upTo (hlimit : holdingUpTo counts n < 2 ^ 64) : (upTo n counts).sum = holdingUpTo counts n := by
  induction n with
  | zero =>
      rw [holdingUpTo_zero] at hlimit ⊢
      exact UInt64.toNat_ofNat_of_lt' hlimit
  | succ n ih =>
      rw [holdingUpTo_succ] at hlimit ⊢
      have hlast : (UInt64.ofNat (holding counts (n + 1))).toNat = holding counts (n + 1) :=
        UInt64.toNat_ofNat_of_lt' (Nat.lt_of_le_of_lt (Nat.le_add_left _ _) hlimit)
      have hfront := ih (Nat.lt_of_le_of_lt (Nat.le_add_right _ _) hlimit)
      rw [sum, upTo] at hfront ⊢
      rw [List.range_succ, List.map_append, List.map_append, List.sum_append, hfront, List.map_singleton,
        List.map_singleton, List.sum_singleton, hlast]

theorem total_upTo (hlimit : holdingUpTo counts n < 2 ^ 64) :
    (upTo n counts).total = .ok (UInt64.ofNat (holdingUpTo counts n)) := by
  have hsum := sum_upTo hlimit
  rw [total_of_lt (by rwa [hsum]), hsum]

theorem holdingUpTo_le_length (counts : List UInt32) (k : Nat) : holdingUpTo counts k ≤ counts.length :=
  List.countP_le_length

theorem holdingUpTo_eq_length (h : ∀ c ∈ counts, c.toNat ≤ n) : holdingUpTo counts n = counts.length := by
  rw [holdingUpTo, List.countP_eq_length]
  simpa only [decide_eq_true_eq] using h

/-! ### Values -/

section Values

variable {α : Type} [Scalar α] [OfScientific α] [Div α]

/-- The share that the buckets with exactly `k` items have in those with at most `n`; it is zero if there are none. -/
def share (counts : List UInt32) (n k : Nat) : α :=
  if holdingUpTo counts n = 0 then 0.0
  else ofCount (UInt64.ofNat (holding counts k)) / ofCount (UInt64.ofNat (holdingUpTo counts n))

omit [OfScientific α] [Div α] in
theorem values_upTo (n : Nat) (counts : List UInt32) :
    ((upTo n counts).values : List α) = (List.range (n + 1)).map fun k => ofCount (UInt64.ofNat (holding counts k)) := by
  rw [values, upTo, List.map_map]
  rfl

/-- The fractions of a histogram are shares, as long as there are no more buckets than a total can count. -/
theorem fractions_upTo (n : Nat) (h : counts.length < 2 ^ 64) :
    ((upTo n counts).fractions : Except Overflow (List α)) = .ok ((List.range (n + 1)).map (share counts n)) := by
  have hlimit : holdingUpTo counts n < 2 ^ 64 := Nat.lt_of_le_of_lt (holdingUpTo_le_length counts n) h
  have htotal : UInt64.ofNat (holdingUpTo counts n) = 0 ↔ holdingUpTo counts n = 0 := by
    rw [← UInt64.toNat_inj, UInt64.toNat_ofNat_of_lt' hlimit]
    rfl
  rw [fractions, total_upTo hlimit, Except.map, fractionsOf]
  by_cases hzero : holdingUpTo counts n = 0
  · have hshare : (share counts n : Nat → α) = fun _ => 0.0 := funext fun k => if_pos hzero
    rw [if_pos (htotal.mpr hzero), hshare, List.map_const', length_upTo, List.length_range]
  · rw [if_neg fun h => hzero (htotal.mp h), upTo, List.map_map]
    exact congrArg Except.ok (List.map_congr_left fun k _ => (if_neg hzero).symm)

end Values

end Occupancy.Histogram
