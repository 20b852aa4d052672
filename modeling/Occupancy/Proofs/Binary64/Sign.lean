import Mathlib
import Occupancy.Scalar

/-! Signs in binary64 arithmetic. A result has the sign that the signs of its operands give, and rounding it and putting it
into bits leave its sign alone. So when a product is positive and one of its factors has no minus sign, both factors are
positive. -/

namespace Occupancy.Binary64

open Float.Model Float.Model.UnpackedFloat

variable {x y : Float} {u v : UnpackedFloat} {s : Sign} {k : Nat}

/-- What the bits of a number stand for. -/
def reading (x : Float) : UnpackedFloat := x.toModel.unpack

/-- What is left of a result that is put into bits. -/
def stored (u : UnpackedFloat) : UnpackedFloat := unpack .binary64 (UnpackedFloat.pack .binary64 u)

theorem reading_mul (x y : Float) : reading (x * y) = stored (UnpackedFloat.mul .binary64 (reading x) (reading y)) := rfl

theorem reading_div (x y : Float) : reading (x / y) = stored (UnpackedFloat.div .binary64 (reading x) (reading y)) := rfl

theorem reading_toFloat (n : UInt64) : reading n.toFloat = stored (UnpackedFloat.ofUInt64 .binary64 n) := rfl

theorem reading_zero : reading 0.0 = .zero .positive := rfl

/-! ### Signs -/

/-- The sign of a number; what is not a number has none. -/
def sign? : UnpackedFloat → Option Sign
  | .notANumber => none
  | .infinity s => some s
  | .zero s => some s
  | .finite s _ _ _ => some s

/-- A number above zero. -/
inductive IsPositive : UnpackedFloat → Prop
  | infinity : IsPositive (.infinity .positive)
  | finite (m : Nat) (e : Int) (hm : 0 < m) : IsPositive (.finite .positive m e hm)

theorem isPositive_iff : IsPositive u ↔ sign? u = some .positive ∧ ∀ s, u ≠ .zero s := by
  constructor
  · intro h
    cases h with
    | infinity => exact ⟨rfl, nofun⟩
    | finite m e hm => exact ⟨rfl, nofun⟩
  · rintro ⟨hsign, hzero⟩
    cases u with
    | infinity s =>
        cases hsign
        exact .infinity
    | finite s m e hm =>
        cases hsign
        exact .finite m e hm
    | zero s => exact absurd rfl (hzero s)
    | notANumber => cases hsign

theorem lt_zero_iff : UnpackedFloat.lt (.zero .positive) u = true ↔ IsPositive u := by
  constructor
  · intro h
    cases u with
    | infinity s => cases s with
      | positive => exact .infinity
      | negative => cases h
    | finite s m e hm => cases s with
      | positive => exact .finite m e hm
      | negative => cases h
    | zero s => cases h
    | notANumber => cases h
  · intro h
    cases h <;> rfl

theorem zero_lt_iff (x : Float) : 0.0 < x ↔ IsPositive (reading x) := by
  rw [← lt_zero_iff, ← reading_zero]
  show decide ((0.0 : Float).toModel < x.toModel) = true ↔ _
  rw [decide_eq_true_eq]
  exact Iff.rfl

/-! ### Bits -/

/-- With the implicit bit in front a significand has 53 bits. -/
theorem log2_implicit (significand : BitVec 52) : (1#1 ++ significand).toNat.log2 = 52 := by
  have hlower : 2 ^ 52 ≤ (1#1 ++ significand).toNat := by
    rw [BitVec.toNat_append]
    exact Nat.left_le_or
  have hupper : (1#1 ++ significand).toNat < 2 ^ 53 := (1#1 ++ significand).isLt
  exact (Nat.log2_eq_iff (by omega)).mpr ⟨hlower, hupper⟩

theorem implicit_pos (significand : BitVec 52) : 0 < (1#1 ++ significand).toNat := by
  apply Nat.pos_of_ne_zero
  intro hnone
  have hlog := log2_implicit significand
  rw [hnone] at hlog
  cases hlog

theorem toNat_pos {w : Nat} {b : BitVec w} (h : b ≠ 0#w) : 0 < b.toNat :=
  Nat.pos_of_ne_zero fun hzero => h (BitVec.eq_of_toNat_eq hzero)

/-- What bits that are put together from a sign, an exponent and a significand stand for. -/
theorem unpack_packComponents (s : Sign) (exponent : BitVec 11) (significand : BitVec 52) :
    unpack .binary64 (packComponents .binary64 s exponent significand) =
      if exponent = -1#11 then
        if significand = 0#52 then .infinity s else .notANumber
      else if exponent = 0#11 then
        if h : significand = 0#52 then .zero s else .finite s significand.toNat (-1074) (toNat_pos h)
      else .finite s (1#1 ++ significand).toNat ((exponent.toNat : Int) - 1075) (implicit_pos significand) := by
  unfold UnpackedFloat.unpack
  simp only [unpackMantissa_packComponents, unpackExponent_packComponents, unpackSign_packComponents,
    Sign.ofBitVec_toBitVec]
  by_cases hzero : exponent = 0#11
  · subst hzero
    rfl
  · rw [if_neg hzero, if_neg hzero]
    rfl

theorem toNat_exponent (h : ¬ 2 ^ 11 ≤ k + 1) : (BitVec.ofNat 11 k).toNat = k := by
  rw [BitVec.toNat_ofNat]
  omega

theorem exponent_ne_ones (h : ¬ 2 ^ 11 ≤ k + 1) : BitVec.ofNat 11 k ≠ -1#11 := by
  intro hones
  have hk : k = 2047 := by
    rw [← toNat_exponent h, hones]
    rfl
  omega

/-- A number is stored with its exponent, or with exponent zero when it has fewer than 53 bits; above all exponents there is
infinity. -/
theorem pack_finite (s : Sign) (m : Nat) (e : Int) (hm : 0 < m) :
    UnpackedFloat.pack .binary64 (.finite s m e hm) =
      if 2 ^ 11 ≤ (e + 1075).toNat + 1 then packedInfinity .binary64 s
      else if m.log2 = 52 then packComponents .binary64 s (BitVec.ofNat 11 (e + 1075).toNat) (BitVec.ofNat 52 m)
      else packComponents .binary64 s 0#11 (BitVec.ofNat 52 m) := by
  have hbias : e + (Format.binary64.exponentBias : Int) + (52 : Nat) = e + 1075 := by
    show e + 1023 + 52 = e + 1075
    omega
  have hbits : m.log2 + 1 = Format.binary64.mantissaBits ↔ m.log2 = 52 := Nat.add_right_cancel_iff
  unfold UnpackedFloat.pack
  simp only [hbias, hbits]

/-! ### Signs of results -/

/-- Bits that are put together from a sign and other parts have that sign, unless they are no number. -/
theorem sign?_unpack_packComponents {exponent : BitVec 11} {significand : BitVec 52}
    (h : exponent ≠ -1#11 ∨ significand = 0#52) :
    sign? (unpack .binary64 (packComponents .binary64 s exponent significand)) = some s := by
  rw [unpack_packComponents]
  by_cases hones : exponent = -1#11
  · rw [if_pos hones, if_pos (h.resolve_left (not_not_intro hones))]
    rfl
  · rw [if_neg hones]
    split
    · split <;> rfl
    · rfl

theorem sign?_stored (u : UnpackedFloat) : sign? (stored u) = sign? u := by
  cases u with
  | notANumber => rfl
  | infinity s => cases s <;> rfl
  | zero s => cases s <;> rfl
  | finite s m e hm =>
      rw [stored, pack_finite]
      split
      · exact sign?_unpack_packComponents (Or.inr rfl)
      · rename_i hexponent
        split
        · exact sign?_unpack_packComponents (Or.inl (exponent_ne_ones hexponent))
        · exact sign?_unpack_packComponents (Or.inl (by decide))

theorem sign?_roundWithAccuracy (s : Sign) (m : Nat) (e : Int) (accuracy : Accuracy) :
    sign? (roundWithAccuracy .binary64 s m e accuracy) = some s := by
  unfold roundWithAccuracy
  dsimp only
  split <;> rfl

theorem stored_zero (s : Sign) : stored (.zero s) = .zero s := by cases s <;> rfl

/-- Nothing becomes positive by being stored. -/
theorem isPositive_of_stored (h : IsPositive (stored u)) : IsPositive u := by
  have hsign := (isPositive_iff.mp h).1
  rw [sign?_stored] at hsign
  refine isPositive_iff.mpr ⟨hsign, ?_⟩
  rintro s rfl
  rw [stored_zero] at h
  cases h

/-- A product has the product of the signs, unless it is no number. -/
theorem exists_signs_of_mul (h : sign? (UnpackedFloat.mul .binary64 u v) = some s) :
    ∃ t r, sign? u = some t ∧ sign? v = some r ∧ t * r = s := by
  cases u <;> cases v
  case finite.finite t m e hm r l d hl =>
    rw [UnpackedFloat.mul, sign?_roundWithAccuracy] at h
    exact ⟨t, r, rfl, rfl, Option.some.inj h⟩
  -- the other products are not rounded: they are zero, infinite or no number
  all_goals first | exact ⟨_, _, rfl, rfl, Option.some.inj h⟩ | cases h

/-- A quotient has the quotient of the signs, unless it is no number. -/
theorem exists_signs_of_div (h : sign? (UnpackedFloat.div .binary64 u v) = some s) :
    ∃ t r, sign? u = some t ∧ sign? v = some r ∧ t / r = s := by
  cases u <;> cases v
  case finite.finite t m e hm r l d hl =>
    rw [UnpackedFloat.div, sign?_roundWithAccuracy] at h
    exact ⟨t, r, rfl, rfl, Option.some.inj h⟩
  all_goals first | exact ⟨_, _, rfl, rfl, Option.some.inj h⟩ | cases h

theorem not_isPositive_zero_mul (s : Sign) (v : UnpackedFloat) : ¬ IsPositive (UnpackedFloat.mul .binary64 (.zero s) v) := by
  cases v <;> exact nofun

theorem not_isPositive_mul_zero (u : UnpackedFloat) (s : Sign) : ¬ IsPositive (UnpackedFloat.mul .binary64 u (.zero s)) := by
  cases u <;> exact nofun

/-- If a product is positive, so are its factors, when one of them has no minus sign. -/
theorem isPositive_of_mul (h : IsPositive (UnpackedFloat.mul .binary64 u v))
    (hsign : sign? u ≠ some .negative ∨ sign? v ≠ some .negative) : IsPositive u ∧ IsPositive v := by
  obtain ⟨t, r, hu, hv, hproduct⟩ := exists_signs_of_mul (isPositive_iff.mp h).1
  rw [hu, hv] at hsign
  have hboth : t = .positive ∧ r = .positive := by
    cases t with
    | positive => cases r with
      | positive => exact ⟨rfl, rfl⟩
      | negative => cases hproduct
    | negative => cases r with
      | positive => cases hproduct
      | negative => rcases hsign with hsign | hsign <;> exact absurd rfl hsign
  obtain ⟨rfl, rfl⟩ := hboth
  constructor
  · refine isPositive_iff.mpr ⟨hu, ?_⟩
    rintro s rfl
    exact not_isPositive_zero_mul s v h
  · refine isPositive_iff.mpr ⟨hv, ?_⟩
    rintro s rfl
    exact not_isPositive_mul_zero u s h

/-! ### Factors -/

/-- A number without a minus sign. -/
def IsUnsigned (x : Float) : Prop := sign? (reading x) ≠ some .negative

theorem IsUnsigned.div (hx : IsUnsigned x) (hy : IsUnsigned y) : IsUnsigned (x / y) := by
  intro hsign
  rw [reading_div, sign?_stored] at hsign
  obtain ⟨t, r, ht, hr, hquotient⟩ := exists_signs_of_div hsign
  cases t with
  | negative => exact hx ht
  | positive => cases r with
    | negative => exact hy hr
    | positive => cases hquotient

/-- If a product is positive, so are its factors, when one of them has no minus sign. -/
theorem zero_lt_of_mul (h : 0.0 < x * y) (hsign : IsUnsigned x ∨ IsUnsigned y) : 0.0 < x ∧ 0.0 < y := by
  rw [zero_lt_iff, reading_mul] at h
  rw [zero_lt_iff, zero_lt_iff]
  exact isPositive_of_mul (isPositive_of_stored h) hsign

end Occupancy.Binary64
