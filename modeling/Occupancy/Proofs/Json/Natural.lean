import Occupancy.Proofs.Json.Quoted

/-! Integers without sign read back: up to 64 bits the digits of an integer stand for it, whatever comes behind them
that does not go on with the literal. -/

namespace Occupancy.Json

open Ascii Text

variable {rest : List UInt8}

/-- The bytes of the decimal digits of an integer. -/
def digits (n : Nat) : List UInt8 := utf8 (Nat.toDigits 10 n)

theorem digits_of_lt {n : Nat} (h : n < 10) : digits n = [hexByte n] := by
  rw [digits, Nat.toDigits_of_lt_base h, utf8, List.flatMap_singleton, utf8EncodeChar_digitChar (by omega)]

theorem digits_of_le {n : Nat} (h : 10 ≤ n) : digits n = digits (n / 10) ++ [hexByte (n % 10)] := by
  rw [digits, Nat.toDigits_of_base_le (by decide) h, utf8_append, ← digits, utf8, List.flatMap_singleton,
    utf8EncodeChar_digitChar (by omega)]

theorem isDigit_hexByte {n : Nat} (h : n < 10) : isDigit (hexByte n) = true := by
  have hall : ∀ n < 10, isDigit (hexByte n) = true := by decide
  exact hall n h

theorem digitValue_hexByte {n : Nat} (h : n < 10) : digitValue (hexByte n) = n := by
  have hall : ∀ n < 10, digitValue (hexByte n) = n := by decide
  exact hall n h

theorem isBlank_of_isDigit {b : UInt8} (h : isDigit b = true) : isBlank b = false := by
  simp only [isDigit, Bool.and_eq_true, decide_eq_true_eq, UInt8.le_iff_toNat_le] at h
  simp only [isBlank, Bool.or_eq_false_iff, beq_eq_false_iff_ne]
  refine ⟨⟨⟨?_, ?_⟩, ?_⟩, ?_⟩ <;>
    · rintro rfl
      exact absurd h.1 (by decide)

theorem hexByte_eq_zero {n : Nat} (h : n < 10) (hzero : hexByte n = zero) : n = 0 := by
  rw [← digitValue_hexByte h, hzero]
  rfl

theorem isDigit_of_mem_digits {n : Nat} : ∀ b ∈ digits n, isDigit b = true := by
  induction n using Nat.strongRecOn with
  | ind n ih =>
      rcases Nat.lt_or_ge n 10 with h | h
      · rw [digits_of_lt h]
        exact List.forall_mem_singleton.mpr (isDigit_hexByte h)
      · rw [digits_of_le h]
        exact List.forall_mem_append.mpr
          ⟨ih (n / 10) (by omega), List.forall_mem_singleton.mpr (isDigit_hexByte (by omega))⟩

/-- Only the integer zero begins with the digit zero. -/
theorem digits_eq_cons (n : Nat) : ∃ b bs, digits n = b :: bs ∧ (b = zero → n = 0 ∧ bs = []) := by
  induction n using Nat.strongRecOn with
  | ind n ih =>
      rcases Nat.lt_or_ge n 10 with h | h
      · exact ⟨hexByte n, [], digits_of_lt h, fun hzero => ⟨hexByte_eq_zero h hzero, rfl⟩⟩
      · obtain ⟨b, bs, hdigits, hzero⟩ := ih (n / 10) (by omega)
        refine ⟨b, bs ++ [hexByte (n % 10)], ?_, ?_⟩
        · rw [digits_of_le h, hdigits]
          rfl
        · intro hb
          have hquotient := (hzero hb).1
          omega

theorem extend_concat {start significand : Nat} {ds : List UInt8} {d : UInt8}
    (h : extend start ds = (significand, 0)) (hlimit : significand * 10 + digitValue d < significandLimit) :
    extend start (ds ++ [d]) = (significand * 10 + digitValue d, 0) := by
  induction ds generalizing start with
  | nil =>
      cases h
      rw [List.nil_append, extend]
      exact if_pos hlimit
  | cons first ds ih =>
      rw [extend] at h
      rw [List.cons_append, extend]
      split at h
      · rw [if_pos ‹_›]
        exact ih h
      -- a digit that was left out would have been counted
      · cases h

theorem extend_digits {n : Nat} (h : n < significandLimit) : extend 0 (digits n) = (n, 0) := by
  induction n using Nat.strongRecOn with
  | ind n ih =>
      rcases Nat.lt_or_ge n 10 with hsmall | hlarge
      · have hempty : extend 0 [] = (0, 0) := rfl
        have hvalue : 0 * 10 + digitValue (hexByte n) = n := by rw [digitValue_hexByte hsmall, Nat.zero_mul, Nat.zero_add]
        have hconcat := extend_concat hempty (hvalue.symm ▸ h)
        rw [digits_of_lt hsmall]
        rw [hvalue] at hconcat
        exact hconcat
      · have hvalue : n / 10 * 10 + digitValue (hexByte (n % 10)) = n := by
          rw [digitValue_hexByte (by omega)]
          omega
        rw [digits_of_le hlarge, extend_concat (ih (n / 10) (by omega) (by omega)) (by omega), hvalue]

/-- Not the beginning of something that goes on with digits. -/
def EndsDigits (rest : List UInt8) : Prop := ∀ b bs, rest = b :: bs → isDigit b = false

/-- Not the beginning of something that goes on with a literal. -/
def EndsLiteral (rest : List UInt8) : Prop :=
  ∀ b bs, rest = b :: bs → isDigit b = false ∧ b ≠ point ∧ b ≠ lowerE ∧ b ≠ upperE

theorem EndsLiteral.endsDigits (h : EndsLiteral rest) : EndsDigits rest := fun b bs heq => (h b bs heq).1

theorem takeWhile_isDigit_append {ds : List UInt8} (hds : ∀ b ∈ ds, isDigit b = true) (h : EndsDigits rest) :
    (ds ++ rest).takeWhile isDigit = ds := by
  have hhead : rest.takeWhile isDigit = [] := by
    cases rest with
    | nil => rfl
    | cons c cs => rw [List.takeWhile_cons, h c cs rfl, if_neg Bool.false_ne_true]
  rw [List.takeWhile_append_of_pos hds, hhead, List.append_nil]

theorem dropWhile_isDigit_append {ds : List UInt8} (hds : ∀ b ∈ ds, isDigit b = true) (h : EndsDigits rest) :
    (ds ++ rest).dropWhile isDigit = rest := by
  rw [List.dropWhile_append_of_pos hds]
  cases rest with
  | nil => rfl
  | cons c cs => rw [List.dropWhile_cons, h c cs rfl, if_neg Bool.false_ne_true]

theorem endsLiteral_comma (bs : List UInt8) : EndsLiteral (comma :: bs) := by
  intro b _ heq
  cases heq
  exact ⟨by decide, by decide, by decide, by decide⟩

theorem endsLiteral_closeBrace (bs : List UInt8) : EndsLiteral (closeBrace :: bs) := by
  intro b _ heq
  cases heq
  exact ⟨by decide, by decide, by decide, by decide⟩

theorem afterInteger_natural (h : EndsLiteral rest) (n : Nat) :
    afterInteger false n 0 rest = .ok (.natural n, rest) := by
  unfold afterInteger
  cases rest with
  | nil => rfl
  | cons b bs =>
      obtain ⟨-, hpoint, hlower, hupper⟩ := h b bs rfl
      dsimp only
      rw [if_neg hpoint, if_neg (not_or.mpr ⟨hlower, hupper⟩)]
      rfl

/-- The digits of an integer are taken to their end. -/
theorem number_append (negative : Bool) (n : Nat) (h : EndsDigits rest) :
    number negative (digits n ++ rest) =
      afterInteger negative (extend 0 (digits n)).1 (extend 0 (digits n)).2 rest := by
  obtain ⟨b, bs, hdigits, hzero⟩ := digits_eq_cons n
  have hall := isDigit_of_mem_digits (n := n)
  by_cases hb : b = zero
  · obtain ⟨rfl, rfl⟩ := hzero hb
    have hextend : extend 0 (digits 0) = (0, 0) := rfl
    rw [hextend, hdigits, hb, List.cons_append, List.nil_append]
    unfold number
    dsimp only
    rw [if_pos rfl]
    cases rest with
    | nil => rfl
    | cons c cs =>
        dsimp only
        rw [h c cs rfl, if_neg Bool.false_ne_true]
  · have htake := takeWhile_isDigit_append hall h
    have hdrop := dropWhile_isDigit_append hall h
    have hdigit : isDigit b = true := hall b (hdigits ▸ List.mem_cons_self)
    rw [hdigits, List.cons_append] at htake hdrop ⊢
    unfold number
    dsimp only
    rw [if_neg hb, if_pos hdigit, htake, hdrop]

theorem number_digits (h : EndsLiteral rest) {n : Nat} (hn : n < significandLimit) :
    number false (digits n ++ rest) = .ok (.natural n, rest) := by
  rw [number_append false n h.endsDigits, extend_digits hn]
  exact afterInteger_natural h n

/-- Where a number is expected, the digits of an integer of 64 bits stand for it. -/
theorem readNatural_digits (h : EndsLiteral rest) (n : UInt64) :
    readNatural (digits n.toNat ++ rest) = .ok (n, rest) := by
  obtain ⟨b, bs, hdigits, -⟩ := digits_eq_cons n.toNat
  have hdigit : isDigit b = true := isDigit_of_mem_digits b (hdigits ▸ List.mem_cons_self)
  have hblank : isBlank b = false := isBlank_of_isDigit hdigit
  have hminus : b ≠ minus := by
    rintro rfl
    exact absurd hdigit (by decide)
  have hskip : skipBlanks (b :: (bs ++ rest)) = b :: (bs ++ rest) := by
    rw [skipBlanks, List.dropWhile_cons, hblank, if_neg Bool.false_ne_true]
  have hnumber := number_digits h (n := n.toNat) n.toNat_lt
  rw [hdigits, List.cons_append] at hnumber ⊢
  rw [readNatural, hskip]
  dsimp only
  rw [if_neg hminus, if_pos hdigit, hnumber]
  show Except.ok (UInt64.ofNat n.toNat, rest) = _
  rw [UInt64.ofNat_toNat]

theorem utf8_integer (n : Nat) : utf8 (text (.integer n)).toList = digits n := by
  show utf8 n.repr.toList = _
  rw [Nat.toList_repr, digits]

end Occupancy.Json
