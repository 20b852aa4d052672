import Occupancy.Proofs.Json.Grammar

/-! Number literals of all kinds. Every literal is passed over; where an integer without sign is expected, exactly the
literals without sign, fraction and exponent that stay below the limit of 64 bits are read as one. -/

namespace Occupancy.Json

open Ascii

variable {rest : List UInt8}

/-! ### Passing over literals -/

theorem endsDigits_literalEnd {ending : List UInt8} (h : IsLiteralEnd ending) (hrest : EndsLiteral rest) :
    EndsDigits (ending ++ rest) := by
  obtain ⟨hfraction, hexponent⟩ := h
  intro b bs heq
  cases hfraction with
  | present => cases heq; decide
  | absent =>
      cases hexponent with
      | absent => exact hrest.endsDigits b bs heq
      | present hletter => cases heq; rcases hletter with rfl | rfl <;> decide

theorem AreDigits.exists_head {ds : List UInt8} (h : AreDigits ds) :
    ∃ d more, ds = d :: more ∧ isDigit d = true ∧ ∀ b ∈ more, isDigit b = true := by
  obtain ⟨d, more, rfl⟩ := List.exists_cons_of_ne_nil h.nonempty
  exact ⟨d, more, rfl, h.digits d List.mem_cons_self, fun b hb => h.digits b (List.mem_cons_of_mem _ hb)⟩

theorem passExponent_eq {sign ds : List UInt8} (hsign : sign = [] ∨ sign = [plus] ∨ sign = [minus])
    (hdigits : AreDigits ds) (hrest : EndsLiteral rest) : passExponent (sign ++ (ds ++ rest)) = .ok rest := by
  obtain ⟨d, more, rfl, hd, hmore⟩ := hdigits.exists_head
  have hdrop := dropWhile_isDigit_append hmore hrest.endsDigits
  have hplain : ¬(d = plus ∨ d = minus) := by
    rintro (rfl | rfl) <;> exact absurd hd (by decide)
  rcases hsign with rfl | rfl | rfl
  · simp only [List.nil_append, List.cons_append, passExponent, hplain, if_false, hd, if_true, hdrop]
  · simp only [List.nil_append, List.cons_append, passExponent, true_or, hd, if_true, hdrop]
  · simp only [List.nil_append, List.cons_append, passExponent, or_true, hd, if_true, hdrop]

theorem passTail_exponent {exponent : List UInt8} (h : IsExponent exponent) (hrest : EndsLiteral rest) :
    passTail (exponent ++ rest) = .ok rest := by
  cases h with
  | absent =>
      rw [List.nil_append]
      cases rest with
      | nil => rfl
      | cons b behind =>
          obtain ⟨-, hpoint, hlower, hupper⟩ := hrest b behind rfl
          rw [passTail, if_neg hpoint, if_neg (not_or.mpr ⟨hlower, hupper⟩)]
  | @present letter sign ds hletter hsign hdigits =>
      have hpoint : letter ≠ point := by rcases hletter with rfl | rfl <;> decide
      rw [List.cons_append, passTail, List.append_assoc]
      rw [if_neg hpoint, if_pos hletter]
      exact passExponent_eq hsign hdigits hrest

theorem passTail_eq {ending : List UInt8} (h : IsLiteralEnd ending) (hrest : EndsLiteral rest) :
    passTail (ending ++ rest) = .ok rest := by
  obtain @⟨fraction, exponent, hfraction, hexponent⟩ := h
  have hexponents := passTail_exponent hexponent hrest
  have hends := endsDigits_literalEnd (.mk .absent hexponent) hrest
  cases hfraction with
  | absent => exact hexponents
  | @present ds hdigits =>
      obtain ⟨d, more, rfl, hd, -⟩ := hdigits.exists_head
      have hdrop := dropWhile_isDigit_append hdigits.digits hends
      rw [List.nil_append] at hdrop
      have hfraction : passFraction (d :: (more ++ (exponent ++ rest))) = passTail (exponent ++ rest) := by
        rw [passFraction, if_pos hd, ← List.cons_append, hdrop]
        cases hexponent with
        | absent =>
            rw [hexponents, List.nil_append]
            split
            · rename_i c behind
              obtain ⟨-, -, hlower, hupper⟩ := hrest c behind rfl
              rw [if_neg (not_or.mpr ⟨hlower, hupper⟩)]
            · rfl
        | @present letter sign ds hletter _ _ =>
            have hpoint : letter ≠ point := by rcases hletter with rfl | rfl <;> decide
            simp only [List.cons_append, passTail, hletter, hpoint, if_true, if_false]
      rw [List.cons_append, List.cons_append, List.cons_append, passTail, if_pos rfl, List.cons_append,
        List.append_assoc, hfraction, hexponents]

/-- A literal behind its sign is passed over. -/
theorem passNumber_eq (n : Nat) {ending : List UInt8} (h : IsLiteralEnd ending) (hrest : EndsLiteral rest) :
    passNumber (digits n ++ (ending ++ rest)) = .ok rest := by
  have htail := passTail_eq h hrest
  have hends := endsDigits_literalEnd h hrest
  generalize ending ++ rest = tail at htail hends
  obtain ⟨b, bs, hdigits, hzero⟩ := digits_eq_cons n
  have hall := isDigit_of_mem_digits (n := n)
  rw [hdigits] at hall ⊢
  by_cases hb : b = zero
  · obtain ⟨-, rfl⟩ := hzero hb
    rw [List.cons_append, List.nil_append]
    unfold passNumber
    dsimp only
    rw [if_pos hb]
    cases tail with
    | nil => exact htail
    | cons c cs =>
        dsimp only
        rw [hends c cs rfl, if_neg Bool.false_ne_true, htail]
  · have hdrop := dropWhile_isDigit_append (fun c hc => hall c (List.mem_cons_of_mem _ hc)) hends
    rw [List.cons_append]
    unfold passNumber
    dsimp only
    rw [if_neg hb, if_pos (hall b List.mem_cons_self), hdrop, htail]

/-! ### Literals that are no integers without sign -/

/-- Not read as an integer without sign. -/
def NotNatural (o : Outcome (Number × List UInt8)) : Prop := ∀ n s, o ≠ .ok (.natural n, s)

theorem notNatural_ite {p : Prop} [Decidable p] {a b : Outcome (Number × List UInt8)} (ha : NotNatural a)
    (hb : NotNatural b) : NotNatural (if p then a else b) := by
  by_cases hp : p
  · rw [if_pos hp]
    exact ha
  · rw [if_neg hp]
    exact hb

theorem notNatural_realNumber (negative : Bool) (significand : Nat) (e : Int) (s : List UInt8) :
    NotNatural (realNumber negative significand e s) := by
  intro n t
  unfold realNumber
  split <;> nofun

theorem notNatural_exponent (negative : Bool) (significand : Nat) (start : Int) (s : List UInt8) :
    NotNatural (exponent negative significand start s) := by
  intro n t
  unfold exponent
  dsimp only
  split
  · nofun
  split
  · split
    · exact notNatural_realNumber _ _ _ _ n t
    · refine notNatural_ite ?_ ?_ n t <;>
        · intro _ _
          nofun
  · nofun

theorem notNatural_fraction (negative : Bool) (significand : Nat) (start : Int) (s : List UInt8) :
    NotNatural (fraction negative significand start s) := by
  intro n t
  unfold fraction
  dsimp only
  split
  · nofun
  · nofun
  split
  · split
    · exact notNatural_exponent _ _ _ _ n t
    · exact notNatural_realNumber _ _ _ _ n t
  · exact notNatural_realNumber _ _ _ _ n t

/-- Whether a literal goes on behind its integer digits. -/
def GoesOn (s : List UInt8) : Prop := ∃ b bs, s = b :: bs ∧ (b = point ∨ b = lowerE ∨ b = upperE)

theorem notNatural_afterInteger {negative : Bool} {significand unused : Nat} {s : List UInt8}
    (h : negative = true ∨ 0 < unused ∨ GoesOn s) : NotNatural (afterInteger negative significand unused s) := by
  have hwhole (hwhole : negative = true ∨ 0 < unused) (t : List UInt8) : NotNatural (
      if 0 < unused then realNumber negative significand unused t
      else if !negative then .ok (.natural significand, t)
      else if 0 < significand ∧ significand ≤ 0x8000000000000000 then .ok (.negative significand, t)
      else .ok (.real (-(UInt64.ofNat significand).toFloat), t)) := by
    intro n u
    split
    · exact notNatural_realNumber _ _ _ _ n u
    rename_i hunused
    cases hwhole.resolve_right hunused
    rw [Bool.not_true, if_neg Bool.false_ne_true]
    split <;> nofun
  intro n t
  unfold afterInteger
  dsimp only
  split
  · rename_i b behind
    split
    · exact notNatural_fraction _ _ _ _ n t
    rename_i hpoint
    split
    · exact notNatural_exponent _ _ _ _ n t
    rename_i hletter
    refine hwhole ?_ _ n t
    rcases h with h | h | ⟨c, cs, heq, hc⟩
    · exact Or.inl h
    · exact Or.inr h
    · cases heq
      rcases hc with hc | hc
      · exact absurd hc hpoint
      · exact absurd hc hletter
  · refine hwhole ?_ _ n t
    rcases h with h | h | ⟨c, cs, heq, -⟩
    · exact Or.inl h
    · exact Or.inr h
    · cases heq

theorem notNatural_number_negative (s : List UInt8) : NotNatural (number true s) := by
  intro n t
  unfold number
  split
  · nofun
  split
  · split
    · split
      · nofun
      · exact notNatural_afterInteger (Or.inl rfl) n t
    · exact notNatural_afterInteger (Or.inl rfl) n t
  split
  · exact notNatural_afterInteger (Or.inl rfl) n t
  · nofun

/-- When no digit is left out, the last digit was appended within the limit. -/
theorem extend_concat_eq {start m : Nat} {ds : List UInt8} {d : UInt8} (h : extend start (ds ++ [d]) = (m, 0)) :
    ∃ front, extend start ds = (front, 0) ∧ m = front * 10 + digitValue d ∧ m < significandLimit := by
  induction ds generalizing start with
  | nil =>
      rw [List.nil_append, extend] at h
      split at h
      · cases h
        exact ⟨start, rfl, rfl, ‹_›⟩
      · cases h
  | cons first ds ih =>
      rw [List.cons_append, extend] at h
      rw [extend]
      split at h
      · rw [if_pos ‹_›]
        exact ih h
      · cases h

/-- Digits that all fit stand for an integer within the limit. -/
theorem lt_of_extend_digits {n m : Nat} (h : extend 0 (digits n) = (m, 0)) : m = n ∧ n < significandLimit := by
  induction n using Nat.strongRecOn generalizing m with
  | ind n ih =>
      rcases Nat.lt_or_ge n 10 with hsmall | hlarge
      · have hlimit : n < significandLimit := Nat.lt_trans hsmall (by decide)
        rw [extend_digits hlimit] at h
        cases h
        exact ⟨rfl, hlimit⟩
      · rw [digits_of_le hlarge] at h
        obtain ⟨front, hfront, hvalue, hlimit⟩ := extend_concat_eq h
        obtain ⟨rfl, -⟩ := ih (n / 10) (by omega) hfront
        rw [digitValue_hexByte (by omega)] at hvalue
        omega

theorem notNatural_number_large {n : Nat} (hn : significandLimit ≤ n) (hrest : EndsDigits rest) :
    NotNatural (number false (digits n ++ rest)) := by
  rw [number_append false n hrest]
  apply notNatural_afterInteger
  right; left
  rcases hextend : extend 0 (digits n) with ⟨m, unused⟩
  rcases Nat.eq_zero_or_pos unused with rfl | hpos
  · exact absurd (lt_of_extend_digits hextend).2 (Nat.not_lt.mpr hn)
  · exact hpos

theorem notNatural_number_real (n : Nat) {ending : List UInt8} (h : IsLiteralEnd ending) (hsome : ending ≠ [])
    (hrest : EndsLiteral rest) : NotNatural (number false (digits n ++ (ending ++ rest))) := by
  rw [number_append false n (endsDigits_literalEnd h hrest)]
  apply notNatural_afterInteger
  right; right
  obtain ⟨hfraction, hexponent⟩ := h
  cases hfraction with
  | present => exact ⟨point, _, rfl, Or.inl rfl⟩
  | absent =>
      cases hexponent with
      | absent => exact absurd rfl hsome
      | @present letter _ _ hletter => exact ⟨letter, _, rfl, Or.inr hletter⟩

end Occupancy.Json
