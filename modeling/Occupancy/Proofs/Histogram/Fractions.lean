import Mathlib
import Occupancy.Proofs.Histogram
import Occupancy.Proofs.Scalar

/-! Fractions of histograms. They are computed with the total, which is a sum of 64 bits. As long as the frequencies do not
add up to more than such a sum can hold, each fraction is the share of its level in all of them; beyond that there is no
total, and there are no fractions. -/

namespace Occupancy.Histogram

variable {h : Histogram} {f : UInt64}

/-! ### The sum -/

theorem sum_eq_zero_iff : h.sum = 0 ↔ ∀ f ∈ h.frequencies, f = 0 := by
  simp [sum, List.sum_eq_zero_iff, ← UInt64.toNat_inj]

theorem toNat_le_sum (hmem : f ∈ h.frequencies) : f.toNat ≤ h.sum := List.le_sum_of_mem (List.mem_map_of_mem hmem)

/-! ### Shares -/

/-- The share of each level in the sum of all frequencies. If the sum is zero, there is nothing at any level, and the shares
are zero as every quotient by zero is. -/
def shares (h : Histogram) : List ℚ := h.frequencies.map fun f => f.toNat / h.sum

theorem sum_shares (hsum : h.sum ≠ 0) : h.shares.sum = 1 := by
  have hcast : (h.frequencies.map fun f => (f.toNat : ℚ)).sum = h.sum := by
    rw [sum, Nat.cast_list_sum, List.map_map]
    rfl
  calc
    h.shares.sum = (h.frequencies.map fun f => (f.toNat : ℚ) * (h.sum : ℚ)⁻¹).sum := by
      simp only [shares, div_eq_mul_inv]
    _ = h.sum * (h.sum : ℚ)⁻¹ := by rw [List.sum_map_mul_right, hcast]
    _ = 1 := mul_inv_cancel₀ (Nat.cast_ne_zero.mpr hsum)

theorem share_mem_unit (hmem : f ∈ h.frequencies) : 0 ≤ (f.toNat : ℚ) / h.sum ∧ (f.toNat : ℚ) / h.sum ≤ 1 := by
  constructor
  · positivity
  · apply div_le_one_of_le₀
    · exact_mod_cast toNat_le_sum hmem
    · positivity

/-- A share is zero only if there is nothing at its level. -/
theorem share_eq_zero_iff (hmem : f ∈ h.frequencies) : (f.toNat : ℚ) / h.sum = 0 ↔ f = 0 := by
  have hsum : h.sum = 0 → f = 0 := fun hzero => sum_eq_zero_iff.mp hzero f hmem
  rw [div_eq_zero_iff, Nat.cast_eq_zero, Nat.cast_eq_zero, ← UInt64.toNat_inj]
  constructor
  · rintro (hf | hzero)
    · exact hf
    · rw [hsum hzero]
  · exact Or.inl

/-! ### Fractions -/

/-- The fractions are the shares if 64 bits can hold the sum. -/
theorem fractions_of_lt (hlimit : h.sum < 2 ^ 64) : h.fractions = .ok h.shares := by
  have htotal : (UInt64.ofNat h.sum).toNat = h.sum := UInt64.toNat_ofNat_of_lt' hlimit
  rw [fractions, total_of_lt hlimit, Except.map, fractionsOf, shares]
  by_cases hzero : UInt64.ofNat h.sum = 0
  · have hsum : h.sum = 0 := by rw [← htotal, hzero]; rfl
    rw [if_pos hzero, hsum]
    simp
  · rw [if_neg hzero]
    simp only [ofCount_rat, htotal]

/-- Where 64 bits cannot hold the sum there are no fractions, of whatever type of numbers. -/
theorem fractions_of_le {α : Type} [Scalar α] [OfScientific α] [Div α] (hlimit : 2 ^ 64 ≤ h.sum) :
    (h.fractions : Except Overflow (List α)) = .error .add := by
  rw [fractions, total_of_le hlimit, Except.map]

/-- The fractions of a histogram: one for each level, which is its share in all frequencies and lies between zero and one;
together they make up one if there is any frequency, and they are all zero only if there is none. -/
structure AreFractions (h : Histogram) (values : List ℚ) : Prop where
  length : values.length = h.frequencies.length
  bounds : ∀ value ∈ values, 0 ≤ value ∧ value ≤ 1
  quotient : ∀ (k : Nat) f, h.frequencies[k]? = some f → values[k]? = some (f.toNat / h.sum : ℚ)
  whole : (∃ f ∈ h.frequencies, f ≠ 0) → values.sum = 1
  zero : (∀ value ∈ values, value = 0) → ∀ f ∈ h.frequencies, f = 0

theorem areFractions_shares (h : Histogram) : AreFractions h h.shares where
  length := List.length_map _
  bounds := by
    rw [shares, List.forall_mem_map]
    exact fun f hmem => share_mem_unit hmem
  quotient k f hk := by rw [shares, List.getElem?_map, hk, Option.map_some]
  whole := by
    rintro ⟨f, hmem, hf⟩
    apply sum_shares
    exact fun hsum => hf (sum_eq_zero_iff.mp hsum f hmem)
  zero := by
    rw [shares, List.forall_mem_map]
    exact fun hvalues f hmem => (share_eq_zero_iff hmem).mp (hvalues f hmem)

/-- **When frequencies are normalised.** What is computed as the fractions of a histogram are its fractions exactly if the
frequencies add up to less than `2 ^ 64`. If they do not, nothing is computed: the program ends. -/
theorem fractions_right_iff (h : Histogram) :
    ((∃ values, h.fractions = .ok values ∧ AreFractions h values) ↔ h.sum < 2 ^ 64) ∧
    ((h.fractions : Except Overflow (List ℚ)) = .error .add ↔ 2 ^ 64 ≤ h.sum) := by
  rcases Nat.lt_or_ge h.sum (2 ^ 64) with hlimit | hlimit
  · rw [fractions_of_lt hlimit]
    exact ⟨iff_of_true ⟨_, rfl, areFractions_shares h⟩ hlimit, iff_of_false nofun (Nat.not_le.mpr hlimit)⟩
  · rw [fractions_of_le hlimit]
    exact ⟨iff_of_false (fun ⟨_, hvalues, _⟩ => nomatch hvalues) (Nat.not_lt.mpr hlimit), iff_of_true rfl hlimit⟩

/-- Two frequencies of `2 ^ 63` have no total, and so no fractions. -/
theorem not_all_fractions_right : ¬∀ h : Histogram, ∃ values, h.fractions = .ok values ∧ AreFractions h values := by
  intro hall
  obtain ⟨values, hvalues, -⟩ := hall ⟨[0x8000000000000000, 0x8000000000000000]⟩
  rw [fractions_of_le (by decide)] at hvalues
  cases hvalues

end Occupancy.Histogram
