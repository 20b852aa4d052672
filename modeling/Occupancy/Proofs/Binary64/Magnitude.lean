import Occupancy.Proofs.Binary64.Sign

/-! Orders of magnitude in binary64 arithmetic. Rounding a positive number and putting it into bits do not push it below a
power of two that it has reached, down to the smallest positive number. So a positive count is at least one, and its product
with a positive number is positive. -/

namespace Occupancy.Binary64

open Float.Model Float.Model.UnpackedFloat

variable {x y : Float} {u : UnpackedFloat} {s : Sign} {m : Nat} {e p q : Int} {n : UInt64}

/-! ### Powers of two -/

/-- A number that is at least `2 ^ p`. -/
inductive Reaches (p : Int) : UnpackedFloat → Prop
  | infinity : Reaches p (.infinity .positive)
  | finite {m : Nat} {e : Int} (hm : 0 < m) (h : p ≤ m.log2 + e) : Reaches p (.finite .positive m e hm)

theorem Reaches.isPositive (h : Reaches p u) : IsPositive u := by
  cases h with
  | infinity => exact .infinity
  | finite hm h => exact .finite _ _ hm

theorem Reaches.mono (h : Reaches q u) (hle : p ≤ q) : Reaches p u := by
  cases h with
  | infinity => exact .infinity
  | finite hm h => exact .finite hm (Int.le_trans hle h)

/-- The bits that are shifted out of a significand: as many as leave it 53 bits and the exponent not below -1074. -/
def excess (m : Nat) (e : Int) : Nat := (max ((m.log2 : Int) + e - 52) (-1074) - e).toNat

/-- The leading bit of a significand stays where it is when other bits are shifted out. -/
theorem log2_div_two_pow (m k : Nat) : (m / 2 ^ k).log2 = m.log2 - k := by
  rw [Nat.log2_eq_log_two, Nat.log2_eq_log_two, Nat.log_div_base_pow]

theorem mantissa_shiftRight (em : ExtendedMantissa) (k : Nat) : (em >>> k).mantissa = em.mantissa / 2 ^ k := by
  induction k with
  | zero => exact (Nat.div_one _).symm
  | succ k ih =>
      show (em >>> k).mantissa / 2 = em.mantissa / 2 ^ (k + 1)
      rw [ih, Nat.div_div_eq_div_mul, Nat.pow_succ]

theorem mantissa_ofMantissaAndAccuracy (m : Nat) (accuracy : Accuracy) :
    (ExtendedMantissa.ofMantissaAndAccuracy m accuracy).mantissa = m := by
  cases accuracy with
  | exact => rfl
  | inexact order => cases order <;> rfl

theorem le_roundedMantissa (em : ExtendedMantissa) : em.mantissa ≤ em.roundedMantissa := by
  unfold ExtendedMantissa.roundedMantissa
  cases em.accuracy with
  | exact => exact Nat.le_refl _
  | inexact order => cases order with
    | lt => exact Nat.le_refl _
    | eq => exact Nat.le_add_right _ _
    | gt => exact Nat.le_add_right _ _

/-- A significand with an exponent as they are stored: 53 bits, or fewer at the lowest exponent. -/
structure Fits (m : Nat) (e : Int) : Prop where
  ne_zero : m ≠ 0
  bits : m.log2 ≤ 52
  exponent : -1074 ≤ e
  full : m.log2 = 52 ∨ e = -1074

theorem targetExponent_sub (m : Nat) (e : Int) :
    (Format.binary64.targetExponent (totalExponent m e) - e).toNat = excess m e := by
  show (max (((m.log2 : Int) + 1 + e) - 53) (-1074) - e).toNat = (max ((m.log2 : Int) + e - 52) (-1074) - e).toNat
  congr 2
  omega

theorem excess_le_log2 (h : -1074 ≤ (m.log2 : Int) + e) : excess m e ≤ m.log2 := by
  unfold excess
  omega

theorem div_excess_ne_zero (hm : m ≠ 0) (h : -1074 ≤ (m.log2 : Int) + e) : m / 2 ^ excess m e ≠ 0 := by
  have hle : 2 ^ excess m e ≤ m := (Nat.le_log2 hm).mp (excess_le_log2 h)
  exact (Nat.div_pos hle (Nat.two_pow_pos _)).ne'

/-- Shifting out the excess makes a wide significand fit and leaves the leading bit where it is. -/
theorem fits_div_excess (hm : m ≠ 0) (h : -1074 ≤ (m.log2 : Int) + e) (hwide : 52 ≤ m.log2 ∨ e ≤ -1074) :
    Fits (m / 2 ^ excess m e) (e + excess m e) := by
  refine ⟨div_excess_ne_zero hm h, ?_, ?_, ?_⟩
  · rw [log2_div_two_pow]
    unfold excess
    omega
  · unfold excess
    omega
  · rw [log2_div_two_pow]
    unfold excess
    omega

theorem log2_div_excess (h : -1074 ≤ (m.log2 : Int) + e) :
    ((m / 2 ^ excess m e).log2 : Int) + (e + excess m e) = m.log2 + e := by
  have hle := excess_le_log2 h
  rw [log2_div_two_pow]
  omega

/-- The significand that the bits shifted out are rounded into. -/
def rounded (m : Nat) (e : Int) (accuracy : Accuracy) : Nat :=
  (ExtendedMantissa.ofMantissaAndAccuracy m accuracy >>> excess m e).roundedMantissa

theorem le_rounded (m : Nat) (e : Int) (accuracy : Accuracy) : m / 2 ^ excess m e ≤ rounded m e accuracy := by
  refine Nat.le_trans (Nat.le_of_eq ?_) (le_roundedMantissa _)
  rw [mantissa_shiftRight, mantissa_ofMantissaAndAccuracy]

/-- After rounding, what has been carried over is shifted out. -/
theorem roundWithAccuracy_eq (s : Sign) (m : Nat) (e : Int) (accuracy : Accuracy) :
    roundWithAccuracy .binary64 s m e accuracy =
      if hzero : rounded m e accuracy / 2 ^ excess (rounded m e accuracy) (e + excess m e) = 0 then .zero s
      else .finite s (rounded m e accuracy / 2 ^ excess (rounded m e accuracy) (e + excess m e))
        (e + excess m e + excess (rounded m e accuracy) (e + excess m e)) (Nat.pos_of_ne_zero hzero) := by
  unfold roundWithAccuracy shiftToTargetExponent shiftToExponent
  simp only [targetExponent_sub, mantissa_shiftRight, mantissa_ofMantissaAndAccuracy]
  rfl

/-- Rounding a wide significand gives one that fits, with its leading bit where it was or higher. -/
theorem exists_roundWithAccuracy (hm : m ≠ 0) (h : -1074 ≤ (m.log2 : Int) + e) (hwide : 52 ≤ m.log2 ∨ e ≤ -1074)
    (s : Sign) (accuracy : Accuracy) :
    ∃ l d hl, roundWithAccuracy .binary64 s m e accuracy = .finite s l d hl ∧ Fits l d ∧
      (m.log2 : Int) + e ≤ l.log2 + d := by
  have hfits := fits_div_excess hm h hwide
  have hle := le_rounded m e accuracy
  have hround := roundWithAccuracy_eq s m e accuracy
  generalize rounded m e accuracy = r at hle hround
  have hlog : (m / 2 ^ excess m e).log2 ≤ r.log2 := by
    rw [Nat.log2_eq_log_two, Nat.log2_eq_log_two]
    exact Nat.log_mono_right hle
  have hplace := log2_div_excess h
  have hr : r ≠ 0 := by
    intro hzero
    rw [hzero] at hle
    exact hfits.ne_zero (Nat.le_zero.mp hle)
  have hreach : -1074 ≤ (r.log2 : Int) + (e + excess m e) := by omega
  have hrwide : 52 ≤ r.log2 ∨ e + excess m e ≤ -1074 := by
    rcases hfits.full with hfull | hfull
    · exact Or.inl (hfull ▸ hlog)
    · exact Or.inr (Int.le_of_eq hfull)
  rw [dif_neg (div_excess_ne_zero hr hreach)] at hround
  refine ⟨_, _, _, hround, fits_div_excess hr hreach hrwide, ?_⟩
  rw [log2_div_excess hreach]
  omega

/-! ### Stored numbers -/

theorem fits_unpack {b : BitVec 64} {hm : 0 < m} (h : unpack .binary64 b = .finite s m e hm) : Fits m e := by
  unfold UnpackedFloat.unpack at h
  dsimp only at h
  split at h
  · split at h <;> cases h
  · split at h
    · split at h
      · cases h
      · rename_i hexponent hsignificand
        injection h with hs hmantissa he
        subst hmantissa he
        refine ⟨hm.ne', ?_, ?_, Or.inr ?_⟩
        · exact Nat.le_of_lt_succ ((Nat.log2_lt hm.ne').mpr (Nat.lt_trans (BitVec.isLt _) (by decide)))
        · rw [hexponent]; decide
        · rw [hexponent]; decide
    · rename_i hexponent
      injection h with hs hmantissa he
      subst hmantissa he
      have hpos := toNat_pos hexponent
      refine ⟨hm.ne', (log2_implicit _).le, ?_, Or.inl (log2_implicit _)⟩
      show -1074 ≤ ((@unpackExponent .binary64 b).toNat : Int) - (1023 + 52)
      omega

theorem fits_reading {hm : 0 < m} (h : reading x = .finite s m e hm) : Fits m e := fits_unpack h

/-- What fits is stored as large as it is, if it does not become infinite. -/
theorem reaches_stored (h : Fits m e) (hm : 0 < m) : Reaches (m.log2 + e) (stored (.finite .positive m e hm)) := by
  have hexponent := h.exponent
  rw [stored, pack_finite]
  split
  · exact .infinity
  · rename_i hsmall
    have hfield := toNat_exponent hsmall
    split
    · rename_i hfull
      have hzero : BitVec.ofNat 11 (e + 1075).toNat ≠ 0#11 := by
        intro hzero
        have hnone : (e + 1075).toNat = 0 := by
          rw [← hfield, hzero]
          rfl
        omega
      rw [unpack_packComponents, if_neg (exponent_ne_ones hsmall), if_neg hzero]
      apply Reaches.finite
      rw [log2_implicit, hfull, hfield]
      omega
    · rename_i hfew
      have hlow : e = -1074 := h.full.resolve_left hfew
      have hlt : m < 2 ^ 52 := (Nat.log2_lt hm.ne').mp (Nat.lt_of_le_of_ne h.bits hfew)
      have hsignificand : (BitVec.ofNat 52 m).toNat = m := by rw [BitVec.toNat_ofNat, Nat.mod_eq_of_lt hlt]
      have hzero : BitVec.ofNat 52 m ≠ 0#52 := by
        intro hzero
        rw [hzero] at hsignificand
        exact hm.ne hsignificand
      have hones : (0#11 : BitVec 11) ≠ -1#11 := by decide
      rw [unpack_packComponents, if_neg hones, if_pos rfl, dif_neg hzero]
      apply Reaches.finite
      rw [hsignificand, hlow]

/-! ### Positive numbers -/

theorem log2_add_le_log2_mul {l : Nat} (hm : m ≠ 0) (hl : l ≠ 0) : m.log2 + l.log2 ≤ (m * l).log2 := by
  apply (Nat.le_log2 (Nat.mul_ne_zero hm hl)).mpr
  rw [Nat.pow_add]
  exact Nat.mul_le_mul (Nat.log2_self_le hm) (Nat.log2_self_le hl)

theorem log2_shiftLeft (hm : m ≠ 0) (k : Nat) : (m <<< k).log2 = m.log2 + k := by
  obtain ⟨hlower, hupper⟩ := (Nat.log2_eq_iff hm).mp rfl
  rw [Nat.shiftLeft_eq]
  refine (Nat.log2_eq_iff (Nat.mul_ne_zero hm (Nat.two_pow_pos k).ne')).mpr ⟨?_, ?_⟩
  · rw [Nat.pow_add]
    exact Nat.mul_le_mul_right _ hlower
  · rw [Nat.add_right_comm, Nat.pow_add]
    exact Nat.mul_lt_mul_of_pos_right hupper (Nat.two_pow_pos k)

/-- The smallest positive number is `2 ^ (-1074)`. -/
theorem reaches_reading (h : IsPositive (reading x)) : Reaches (-1074) (reading x) := by
  cases hx : reading x with
  | infinity s =>
      rw [hx] at h
      cases h
      exact .infinity
  | finite s m e hm =>
      rw [hx] at h
      have hexponent := (fits_reading hx).exponent
      cases h
      exact .finite hm (by omega)
  | zero s =>
      rw [hx] at h
      cases h
  | notANumber =>
      rw [hx] at h
      cases h

/-- Rounding and storing a positive number leaves it above the powers of two that it is above. -/
theorem reaches_stored_round (hm : m ≠ 0) (hp : p ≤ m.log2 + e) (hlow : -1074 ≤ p) (hwide : 52 ≤ m.log2 ∨ e ≤ -1074)
    (accuracy : Accuracy) : Reaches p (stored (roundWithAccuracy .binary64 .positive m e accuracy)) := by
  obtain ⟨l, d, hl, hround, hfits, hle⟩ :=
    exists_roundWithAccuracy hm (Int.le_trans hlow hp) hwide .positive accuracy
  rw [hround]
  exact (reaches_stored hfits hl).mono (Int.le_trans hp hle)

theorem reaches_mul (hx : Reaches p (reading x)) (hy : Reaches q (reading y)) (hlow : -1074 ≤ p + q) :
    Reaches (p + q) (reading (x * y)) := by
  rw [reading_mul]
  generalize hu : reading x = u at hx
  generalize hv : reading y = v at hy
  cases hx with
  | infinity => cases hy with
    | infinity => exact .infinity
    | finite hl hq =>
        show Reaches (p + q) (stored (.infinity .positive))
        exact .infinity
  | finite hm hp => cases hy with
    | infinity =>
        show Reaches (p + q) (stored (.infinity .positive))
        exact .infinity
    | finite hl hq =>
        have hmfull := (fits_reading hu).full
        have hlfull := (fits_reading hv).full
        have hmul := log2_add_le_log2_mul hm.ne' hl.ne'
        exact reaches_stored_round (Nat.mul_ne_zero hm.ne' hl.ne') (by omega) hlow (by omega) .exact

/-- A count is rounded from itself, with zeros behind it if it has fewer than 53 bits. -/
theorem ofUInt64_eq (h : n.toNat ≠ 0) :
    UnpackedFloat.ofUInt64 .binary64 n =
      roundWithAccuracy .binary64 .positive (n.toNat <<< (52 - n.toNat.log2)) (0 - ((52 - n.toNat.log2 : Nat) : Int))
        .exact := by
  have hcompare : compare (n.toNat : Int) 0 = .gt := by
    rw [Int.compare_eq_gt]
    omega
  have htarget : (0 - Format.binary64.targetExponent (totalExponent n.toNat 0)).toNat = 52 - n.toNat.log2 := by
    show (0 - max (((n.toNat.log2 : Int) + 1 + 0) - 53) (-1074)).toNat = 52 - n.toNat.log2
    omega
  show UnpackedFloat.normalize .binary64 (n.toNat : Int) 0 .positive = _
  unfold UnpackedFloat.normalize
  rw [hcompare]
  unfold UnpackedFloat.round decreaseExponent
  simp only [Int.toNat_natCast, htarget]

/-- Positive counts are at least one. -/
theorem reaches_toFloat (h : 0 < n) : Reaches 0 (reading n.toFloat) := by
  have hn : n.toNat ≠ 0 := by
    rw [UInt64.lt_iff_toNat_lt] at h
    exact Nat.ne_of_gt h
  have hlog := log2_shiftLeft hn (52 - n.toNat.log2)
  rw [reading_toFloat, ofUInt64_eq hn]
  refine reaches_stored_round ?_ ?_ (by decide) (Or.inl ?_) .exact
  · rw [Nat.shiftLeft_eq]
    exact Nat.mul_ne_zero hn (Nat.two_pow_pos _).ne'
  · omega
  · omega

theorem zero_lt_toFloat_iff (n : UInt64) : 0.0 < n.toFloat ↔ 0 < n := by
  constructor
  · intro h
    apply UInt64.pos_iff_ne_zero.mpr
    rintro rfl
    exact absurd h (by decide)
  · intro h
    exact (zero_lt_iff _).mpr (reaches_toFloat h).isPositive

/-- A product of a positive count and a positive number does not become zero. -/
theorem zero_lt_toFloat_mul (hn : 0 < n) (hx : 0.0 < x) : 0.0 < n.toFloat * x := by
  have hfactor := reaches_reading ((zero_lt_iff x).mp hx)
  exact (zero_lt_iff _).mpr (reaches_mul (reaches_toFloat hn) hfactor (by decide)).isPositive

theorem isUnsigned_toFloat (n : UInt64) : IsUnsigned n.toFloat := by
  by_cases hn : 0 < n
  · intro hsign
    rw [(isPositive_iff.mp (reaches_toFloat hn).isPositive).1] at hsign
    cases hsign
  · have hzero : n = 0 := by
      by_contra hne
      exact hn (UInt64.pos_iff_ne_zero.mpr hne)
    rw [hzero]
    exact nofun

end Occupancy.Binary64
