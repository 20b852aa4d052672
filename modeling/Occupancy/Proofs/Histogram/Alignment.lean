import Mathlib
import Occupancy.Proofs.Histogram.Truncation

/-! Alignment. Every histogram that has levels is cut off at the smallest of their largest levels, so that all of them end at
the same one, and those without levels stay without. What is done to a histogram depends on the others through that level
only: not on their order, and not on whether they have been aligned before. For histograms of tables of buckets it is
counting under a cap that all of the tables decide on. -/

namespace Occupancy.Histogram

variable {h : Histogram} {hs gs : List Histogram} {top m : UInt32}

/-! ### The common level -/

theorem commonMaxK_eq_some_iff :
    commonMaxK hs = some top ↔ (∃ h ∈ hs, h.maxK = some top) ∧ ∀ h ∈ hs, ∀ m, h.maxK = some m → top ≤ m := by
  rw [commonMaxK, List.min?_eq_some_iff, List.mem_filterMap]
  constructor
  · rintro ⟨hmem, hle⟩
    exact ⟨hmem, fun h hh m hm => hle m (List.mem_filterMap.mpr ⟨h, hh, hm⟩)⟩
  · rintro ⟨hmem, hle⟩
    refine ⟨hmem, fun m hm => ?_⟩
    obtain ⟨h, hh, hm⟩ := List.mem_filterMap.mp hm
    exact hle h hh m hm

theorem exists_commonMaxK (hmem : h ∈ hs) (hne : h.frequencies ≠ []) : ∃ top, commonMaxK hs = some top := by
  obtain ⟨m, hm⟩ := exists_maxK hne
  exact Option.isSome_iff_exists.mp (List.isSome_min?_of_mem (List.mem_filterMap.mpr ⟨h, hmem, hm⟩))

theorem align_eq_map (htop : commonMaxK hs = some top) : align hs = hs.map (·.truncated top) := by rw [align, htop]

/-! ### One histogram -/

/-- Cut off at the common level, a histogram that has levels ends there. -/
theorem length_truncated_of_commonMaxK (htop : commonMaxK hs = some top) (hmem : h ∈ hs) (hne : h.frequencies ≠ []) :
    (h.truncated top).frequencies.length = top.toNat + 1 := by
  obtain ⟨m, hm⟩ := exists_maxK hne
  have hle : top.toNat ≤ m.toNat := UInt32.le_iff_toNat_le.mp ((commonMaxK_eq_some_iff.mp htop).2 h hmem m hm)
  have hlt := lt_length_of_maxK hm
  rw [truncated, List.length_take]
  omega

theorem truncated_of_nil (hnil : h.frequencies = []) (top : UInt32) : h.truncated top = h := by
  cases h
  simp only at hnil
  rw [truncated, hnil, List.take_nil]

theorem maxK_truncated_of_commonMaxK (htop : commonMaxK hs = some top) (hmem : h ∈ hs) :
    (h.truncated top).maxK = h.maxK.map fun _ => top := by
  by_cases hnil : h.frequencies = []
  · rw [truncated_of_nil hnil, maxK_eq_none_iff.mpr hnil, Option.map_none]
  · obtain ⟨m, hm⟩ := exists_maxK hnil
    rw [maxK_of_length (length_truncated_of_commonMaxK htop hmem hnil), hm, Option.map_some]

/-- The numbers of levels of the histograms that have any. -/
def levelCounts (hs : List Histogram) : List Nat := (hs.map (·.frequencies.length)).filter (0 < ·)

/-- Where levels are 32-bit numbers, the common level is the last one of the histogram that has the fewest. -/
theorem min?_levelCounts (hlevels : ∀ h ∈ hs, h.frequencies.length ≤ 2 ^ 32) (htop : commonMaxK hs = some top) :
    (levelCounts hs).min? = some (top.toNat + 1) := by
  obtain ⟨⟨least, hleast, hmaxK⟩, hle⟩ := commonMaxK_eq_some_iff.mp htop
  rw [List.min?_eq_some_iff]
  constructor
  · refine List.mem_filter.mpr ⟨List.mem_map.mpr ⟨least, hleast, ?_⟩, by simp⟩
    exact length_of_maxK (hlevels least hleast) hmaxK
  · intro count hcount
    obtain ⟨hmap, hpos⟩ := List.mem_filter.mp hcount
    obtain ⟨h, hmem, rfl⟩ := List.mem_map.mp hmap
    obtain ⟨m, hm⟩ := exists_maxK (h := h) (List.length_pos_iff.mp (by simpa using hpos))
    have htop_le : top.toNat ≤ m.toNat := UInt32.le_iff_toNat_le.mp (hle h hmem m hm)
    rw [length_of_maxK (hlevels h hmem) hm]
    omega

/-- What alignment makes of one of some histograms: its first levels. If it has any level, these are the levels up to the
smallest of the largest levels of all; they are as many as the histogram with the fewest has, as long as the levels of all
can be told apart by 32-bit numbers. -/
structure AlignedFrom (hs : List Histogram) (h aligned : Histogram) : Prop where
  front : aligned.frequencies <+: h.frequencies
  empty : h.frequencies = [] → aligned.frequencies = []
  levels : h.frequencies ≠ [] → ∃ top, commonMaxK hs = some top ∧ aligned.frequencies.length = top.toNat + 1
  fewest : h.frequencies ≠ [] → (∀ g ∈ hs, g.frequencies.length ≤ 2 ^ 32) →
    (levelCounts hs).min? = some aligned.frequencies.length

theorem alignedFrom_truncated (htop : commonMaxK hs = some top) (hmem : h ∈ hs) : AlignedFrom hs h (h.truncated top) where
  front := List.take_prefix _ _
  empty hnil := by rw [truncated_of_nil hnil, hnil]
  levels hne := ⟨top, htop, length_truncated_of_commonMaxK htop hmem hne⟩
  fewest hne hlevels := by rw [length_truncated_of_commonMaxK htop hmem hne, min?_levelCounts hlevels htop]

/-- Histograms without a common level have no levels. -/
theorem alignedFrom_self (htop : commonMaxK hs = none) (hmem : h ∈ hs) : AlignedFrom hs h h := by
  have hnil : h.frequencies = [] := by
    by_contra hne
    obtain ⟨top, hsome⟩ := exists_commonMaxK hmem hne
    rw [htop] at hsome
    cases hsome
  exact ⟨List.prefix_rfl, id, (absurd hnil ·), (absurd hnil ·)⟩

theorem forall₂_alignedFrom (hs : List Histogram) : List.Forall₂ (AlignedFrom hs) hs (align hs) := by
  rw [align]
  split
  · rename_i htop
    exact List.forall₂_same.mpr fun h hmem => alignedFrom_self htop hmem
  · rename_i top htop
    rw [List.forall₂_map_right_iff]
    exact List.forall₂_same.mpr fun h hmem => alignedFrom_truncated htop hmem

/-! ### Alignment as a whole -/

theorem commonMaxK_map_truncated (htop : commonMaxK hs = some top) :
    commonMaxK (hs.map (·.truncated top)) = some top := by
  obtain ⟨⟨least, hleast, hmaxK⟩, -⟩ := commonMaxK_eq_some_iff.mp htop
  rw [commonMaxK_eq_some_iff]
  constructor
  · refine ⟨_, List.mem_map_of_mem hleast, ?_⟩
    rw [maxK_truncated_of_commonMaxK htop hleast, hmaxK, Option.map_some]
  · rw [List.forall_mem_map]
    intro h hmem m hm
    rw [maxK_truncated_of_commonMaxK htop hmem, Option.map_eq_some_iff] at hm
    obtain ⟨_, -, rfl⟩ := hm
    exact UInt32.le_refl top

theorem align_align (hs : List Histogram) : align (align hs) = align hs := by
  cases htop : commonMaxK hs with
  | none =>
      have hsame : align hs = hs := by rw [align, htop]
      rw [hsame, hsame]
  | some top =>
      have htwice : ∀ h : Histogram, (h.truncated top).truncated top = h.truncated top := fun h => by
        rw [truncated, truncated, List.take_take, Nat.min_self]
      rw [align_eq_map htop, align_eq_map (commonMaxK_map_truncated htop), List.map_map]
      exact List.map_congr_left fun h _ => htwice h

theorem commonMaxK_of_perm (hperm : gs.Perm hs) : commonMaxK gs = commonMaxK hs := by
  ext top
  simp only [commonMaxK_eq_some_iff, hperm.mem_iff]

/-- The same is done to each histogram, in whatever order they come. -/
theorem exists_align_eq_map (hperm : gs.Perm hs) :
    ∃ cut : Histogram → Histogram, align hs = hs.map cut ∧ align gs = gs.map cut := by
  cases htop : commonMaxK hs with
  | none =>
      refine ⟨id, ?_, ?_⟩
      · rw [align, htop, List.map_id]
      · rw [align, commonMaxK_of_perm hperm, htop, List.map_id]
  | some top =>
      have htop_gs : commonMaxK gs = some top := by rw [commonMaxK_of_perm hperm, htop]
      exact ⟨(·.truncated top), align_eq_map htop, align_eq_map htop_gs⟩

theorem getElem?_align_perm (hs : List Histogram) (σ : Equiv.Perm (Fin hs.length)) (i : Fin hs.length) :
    (align (List.ofFn fun j => hs.get (σ j)))[(i : Nat)]? = (align hs)[(σ i : Nat)]? := by
  have hperm : (List.ofFn fun j => hs.get (σ j)).Perm hs := by
    have hofFn := Equiv.Perm.ofFn_comp_perm σ hs.get
    rwa [List.ofFn_get] at hofFn
  obtain ⟨cut, halign, hpermuted⟩ := exists_align_eq_map hperm
  rw [halign, hpermuted, List.getElem?_map, List.getElem?_map]
  simp

/-- Tables of buckets, each counted under a cap of its own, have the histograms that they have under the cap on which all
of them agree. -/
theorem align_ofCounts_eq {tables : List (List UInt32 × Option UInt32)} (hcounts : ∀ table ∈ tables, table.1 ≠ [])
    (htop : (tables.map fun table => topOf table.2 table.1).min? = some top) :
    align (tables.map fun table => ofCounts table.1 table.2) = tables.map fun table => ofCounts table.1 (some top) := by
  rw [align_ofCounts _ hcounts htop]
  refine List.map_congr_left fun table htable => ?_
  have hle : top ≤ topOf table.2 table.1 := (List.min?_eq_some_iff.mp htop).2 _ (List.mem_map_of_mem htable)
  have hreach : top.toNat ≤ (topOf none table.1).toNat := by
    have hle := UInt32.le_iff_toNat_le.mp hle
    cases hcap : table.2 with
    | none => rwa [hcap] at hle
    | some cap =>
        rw [hcap, toNat_topOf_some (hcounts table htable)] at hle
        omega
  rw [ofCounts_eq_upTo (hcounts table htable), toNat_topOf_some (hcounts table htable), Nat.min_eq_left hreach]

/-- **Alignment.** Each histogram is aligned in its place, to its levels up to the smallest of the largest ones; one without
levels stays as it is. Aligning once more changes nothing, and aligning the histograms in another order gives what they are
aligned to in that order. Of tables of buckets, counted under any caps, the aligned histograms are those under one cap: the
smallest of their largest counts and caps. -/
theorem align_laws :
    (∀ hs, List.Forall₂ (AlignedFrom hs) hs (align hs)) ∧
    (∀ hs, align (align hs) = align hs) ∧
    (∀ (hs : List Histogram) (σ : Equiv.Perm (Fin hs.length)) (i : Fin hs.length),
      (align (List.ofFn fun j => hs.get (σ j)))[(i : Nat)]? = (align hs)[(σ i : Nat)]?) ∧
    ∀ tables : List (List UInt32 × Option UInt32), tables ≠ [] → (∀ table ∈ tables, table.1 ≠ []) →
      ∃ top, (tables.map fun table => topOf table.2 table.1).min? = some top ∧
        align (tables.map fun table => ofCounts table.1 table.2) =
          tables.map fun table => ofCounts table.1 (some top) := by
  refine ⟨forall₂_alignedFrom, align_align, getElem?_align_perm, fun tables hne hcounts => ?_⟩
  have htops : tables.map (fun table => topOf table.2 table.1) ≠ [] := by simpa using hne
  obtain ⟨top, htop⟩ := Option.isSome_iff_exists.mp (List.isSome_min?_of_ne_nil htops)
  exact ⟨top, htop, align_ofCounts_eq hcounts htop⟩

/-- A histogram without levels among others neither changes nor changes them; and of a table with counts up to five and one
with a count of seven under a cap of three, both are aligned to the levels up to three. -/
theorem align_laws_hollow :
    List.Forall₂ (AlignedFrom [⟨[5, 3, 2]⟩, empty, ⟨[4, 2, 2, 1, 1]⟩]) [⟨[5, 3, 2]⟩, empty, ⟨[4, 2, 2, 1, 1]⟩]
      [⟨[5, 3, 2]⟩, empty, ⟨[4, 2, 2]⟩] ∧
    align [ofCounts [0, 2, 5] none, ofCounts [1, 7] (some 3)] = [ofCounts [0, 2, 5] (some 3), ofCounts [1, 7] (some 3)] := by
  obtain ⟨haligned, -, -, htables⟩ := align_laws
  obtain ⟨top, htop, halign⟩ := htables [([0, 2, 5], none), ([1, 7], some 3)] (by decide) (by decide)
  cases htop
  exact ⟨haligned _, halign⟩

/-- Among histograms of which one has more levels than 32-bit numbers can tell apart, the fewest levels are not those that
all are aligned to. -/
theorem not_all_aligned_to_fewest :
    ¬∀ hs, List.Forall₂ (fun h aligned => h.frequencies ≠ [] → (levelCounts hs).min? = some aligned.frequencies.length)
      hs (align hs) := by
  intro hall
  have htop : commonMaxK [wide, ⟨[1, 1]⟩] = some 0 :=
    commonMaxK_eq_some_iff.mpr ⟨⟨wide, List.mem_cons_self, maxK_wide⟩, fun _ _ _ _ => UInt32.zero_le⟩
  have hcounts : levelCounts [wide, ⟨[1, 1]⟩] = [2 ^ 32 + 1, 2] := by
    rw [levelCounts, List.map_cons, length_wide]
    rfl
  have hfewest := hall [wide, ⟨[1, 1]⟩]
  rw [align_eq_map htop, hcounts, List.map_cons, List.map_singleton, List.forall₂_cons, List.forall₂_cons] at hfewest
  -- both are cut off at the level zero
  have hpair := hfewest.2.1 (List.cons_ne_nil _ _)
  exact absurd hpair (by decide)

end Occupancy.Histogram
