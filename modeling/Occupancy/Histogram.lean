import Occupancy.Checked

/-! Occupancy histograms. A table of buckets is given by the number of items in each bucket; its histogram says
for every level `k` how many buckets hold exactly `k` items, from zero up to the largest level in the table. A cap
leaves out the levels above it, and the buckets at those levels are not counted anywhere else. Levels are 32-bit
numbers: in a histogram with more than `2 ^ 32` of them, which no table of buckets has, they start again from zero. -/

namespace Occupancy

/-- Number of buckets at each level, the level being the position. -/
structure Histogram where
  frequencies : List UInt64
deriving Repr, DecidableEq

namespace Histogram

def empty : Histogram := ⟨[]⟩

/-- One more bucket at level `count`, if the table reaches that far. An entry is at most the number of buckets, and there
are fewer than `2 ^ 64` of them in memory. -/
def tally (table : Array UInt64) (count : UInt32) : Array UInt64 := table.modify count.toNat (· + 1)

/-- The largest level of a table with largest count `largest`. -/
def topLevel (cap : Option UInt32) (largest : UInt32) : UInt32 :=
  match cap with
  | none => largest
  | some cap => min cap largest

/-- The histogram of a table of buckets; a table without buckets has no levels. -/
def ofCounts (counts : List UInt32) (cap : Option UInt32) : Histogram :=
  match counts.max? with
  | none => empty
  | some largest =>
    let table := Array.replicate ((topLevel cap largest).toNat + 1) 0
    ⟨(counts.foldl tally table).toList⟩

/-- The levels from zero to `maxK`; a shorter histogram is not filled up. -/
def truncated (h : Histogram) (maxK : UInt32) : Histogram := ⟨h.frequencies.take (maxK.toNat + 1)⟩

/-- The last level, if there is any level. -/
def maxK (h : Histogram) : Option UInt32 :=
  match h.frequencies.length with
  | 0 => none
  | n + 1 => some (UInt32.ofNat n)

/-- The number of buckets counted. -/
def total (h : Histogram) : Except Overflow UInt64 := Checked.sum h.frequencies

def levels (h : Histogram) : List UInt32 := (List.range h.frequencies.length).map UInt32.ofNat

def pairs (h : Histogram) : List (UInt32 × UInt64) := h.levels.zip h.frequencies

theorem maxK_eq_none_iff {h : Histogram} : h.maxK = none ↔ h.frequencies = [] := by
  rw [maxK]
  cases h.frequencies <;> simp

theorem length_levels (h : Histogram) : h.levels.length = h.frequencies.length := by simp [levels]

theorem length_pairs (h : Histogram) : h.pairs.length = h.frequencies.length := by simp [pairs, levels]

end Histogram

end Occupancy
