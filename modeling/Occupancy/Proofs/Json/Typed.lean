import Occupancy.Proofs.Json.Numeral

/-! Values of a required type. A reader of a type takes a value exactly when it is of that type, whichever form it is
written in; any other value is a fault. -/

namespace Occupancy.Json

open Ascii

variable {v : Tree} {s blanks rest : List UInt8} {t : String}

/-! ### Faults -/

theorem bind_eq_error {α β : Type} (o : Outcome α) {f : α → Outcome β} (hf : ∀ a, ∃ e, f a = .error e) :
    ∃ e, (o >>= f) = .error e := by
  cases o with
  | error e => exact ⟨e, rfl⟩
  | ok a => exact hf a

/-- A chain of readers succeeds if each of them does. -/
theorem bind_eq_ok_iff {α β : Type} {o : Outcome α} {f : α → Outcome β} {b : β} :
    (o >>= f) = .ok b ↔ ∃ a, o = .ok a ∧ f a = .ok b := by
  constructor
  · intro h
    cases o with
    | error e => cases h
    | ok a => exact ⟨a, rfl, h⟩
  · rintro ⟨a, rfl, h⟩
    exact h

theorem ite_eq_error {α : Type} {p : Prop} [Decidable p] {a b : Outcome α} (ha : ∃ e, a = .error e)
    (hb : ∃ e, b = .error e) : ∃ e, (if p then a else b) = .error e := by
  by_cases hp : p
  · rw [if_pos hp]
    exact ha
  · rw [if_neg hp]
    exact hb

/-- What stands in the place of something else is never taken. -/
theorem misplaced_eq_error {α : Type} (expected : String) (s : List UInt8) :
    ∃ e, (misplaced expected s : Outcome α) = .error e := by
  cases s with
  | nil => exact ⟨_, rfl⟩
  | cons b rest =>
      rw [misplaced]
      refine ite_eq_error (bind_eq_error _ fun _ => ⟨_, rfl⟩) ?_
      refine ite_eq_error (bind_eq_error _ fun _ => ⟨_, rfl⟩) ?_
      refine ite_eq_error (bind_eq_error _ fun _ => ⟨_, rfl⟩) ?_
      refine ite_eq_error (bind_eq_error _ fun _ => ⟨_, rfl⟩) ?_
      refine ite_eq_error (bind_eq_error _ fun _ => ⟨_, rfl⟩) ?_
      refine ite_eq_error (bind_eq_error _ fun _ => ⟨_, rfl⟩) ?_
      exact ite_eq_error ⟨_, rfl⟩ (ite_eq_error ⟨_, rfl⟩ ⟨_, rfl⟩)

/-! ### Strings -/

theorem readString_string (h : Writes (.value (.string t)) s) (hblanks : AreBlanks blanks) :
    readString (blanks ++ (s ++ rest)) = .ok (t, rest) := by
  cases h with
  | @string _ forms hforms =>
      rw [List.cons_append, readString, skipBlanks_append_cons hblanks (by decide), List.append_assoc]
      exact quoted_spells hforms rest

/-- A value that is no string does not begin with a quote. -/
theorem readString_eq_error (h : Writes (.value v) s) (hblanks : AreBlanks blanks) (hv : ∀ t, v ≠ .string t) :
    ∃ e, readString (blanks ++ (s ++ rest)) = .error e := by
  obtain ⟨b, bs, rfl, hbegins⟩ := h.exists_head
  have hquote : b ≠ quoteMark := by
    rintro rfl
    obtain ⟨t, rfl⟩ := eq_string_of_begins hbegins
    exact hv t rfl
  rw [List.cons_append, readString, skipBlanks_append_cons hblanks hbegins.isBlank_eq_false.1]
  simp only [hquote, if_false]
  exact misplaced_eq_error _ _

theorem readOptionalString_null (h : Writes (.value .null) s) (hblanks : AreBlanks blanks) :
    readOptionalString (blanks ++ (s ++ rest)) = .ok (none, rest) := by
  cases h
  rw [List.cons_append, readOptionalString, skipBlanks_append_cons hblanks (by decide)]
  rfl

/-- A value that is not the word for no value is read as a string. -/
theorem readOptionalString_eq (h : Writes (.value v) s) (hblanks : AreBlanks blanks) (hnull : v ≠ .null) :
    readOptionalString (blanks ++ (s ++ rest)) =
      (readString (blanks ++ (s ++ rest))).map fun (text, rest) => (some text, rest) := by
  obtain ⟨b, bs, rfl, hbegins⟩ := h.exists_head
  have hblank := hbegins.isBlank_eq_false.1
  have hword : b ≠ lowerN := by
    rintro rfl
    exact hnull (eq_null_of_begins hbegins)
  have hread : readString (blanks ++ (b :: bs ++ rest)) = readString (b :: (bs ++ rest)) := by
    rw [List.cons_append, readString, readString, skipBlanks_append_cons hblanks hblank, skipBlanks_cons hblank]
  rw [hread, List.cons_append, readOptionalString, skipBlanks_append_cons hblanks hblank]
  simp only [hword, if_false]
  cases readString (b :: (bs ++ rest)) <;> rfl

/-! ### Integers -/

theorem readNatural_natural {n : Nat} (h : Writes (.value (.natural n)) s) (hblanks : AreBlanks blanks)
    (hrest : EndsLiteral rest) (hn : n < significandLimit) :
    readNatural (blanks ++ (s ++ rest)) = .ok (UInt64.ofNat n, rest) := by
  cases h
  obtain ⟨b, bs, hdigits, hdigit⟩ := isDigit_head_digits n
  have hvalue : (UInt64.ofNat n).toNat = n := UInt64.toNat_ofNat_of_lt' hn
  have hread := readNatural_digits hrest (UInt64.ofNat n)
  rw [hvalue] at hread
  rw [hdigits, List.cons_append] at hread ⊢
  rw [← hread, readNatural, readNatural, skipBlanks_append_cons hblanks (isBlank_of_isDigit hdigit),
    skipBlanks_cons (isBlank_of_isDigit hdigit)]

/-- A number that is not read as an integer without sign is none. -/
theorem natural_eq_error {o : Outcome (Number × List UInt8)} (h : NotNatural o) :
    ∃ e, (o >>= fun (n, rest) => natural n rest) = .error e := by
  cases o with
  | error e => exact ⟨e, rfl⟩
  | ok read =>
      obtain ⟨n, rest⟩ := read
      cases n with
      | natural n => exact absurd rfl (h n rest)
      | negative n => exact ⟨_, rfl⟩
      | real x => exact ⟨_, rfl⟩

theorem readNatural_literal {n : Nat} {tail : List UInt8} (hblanks : AreBlanks blanks)
    (h : NotNatural (number false (digits n ++ tail))) : ∃ e, readNatural (blanks ++ (digits n ++ tail)) = .error e := by
  obtain ⟨b, bs, hdigits, hdigit⟩ := isDigit_head_digits n
  have hminus : b ≠ minus := by
    rintro rfl
    exact absurd hdigit (by decide)
  rw [hdigits, List.cons_append] at h ⊢
  rw [readNatural, skipBlanks_append_cons hblanks (isBlank_of_isDigit hdigit)]
  simp only [hminus, if_false, hdigit, if_true]
  exact natural_eq_error h

theorem readNatural_eq_error (h : Writes (.value v) s) (hblanks : AreBlanks blanks) (hrest : EndsLiteral rest)
    (hv : ∀ n < significandLimit, v ≠ .natural n) : ∃ e, readNatural (blanks ++ (s ++ rest)) = .error e := by
  have hmisplaced {b : UInt8} {bs : List UInt8} (hblank : isBlank b = false) (hminus : b ≠ minus)
      (hdigit : isDigit b = false) : ∃ e, readNatural (blanks ++ (b :: bs ++ rest)) = .error e := by
    rw [List.cons_append, readNatural, skipBlanks_append_cons hblanks hblank]
    simp only [hminus, if_false, hdigit, Bool.false_eq_true]
    exact misplaced_eq_error _ _
  cases h with
  | natural n =>
      have hn : significandLimit ≤ n := Nat.not_lt.mp fun hn => hv n hn rfl
      exact readNatural_literal hblanks (notNatural_number_large hn hrest.endsDigits)
  | real n hending hsome =>
      rw [List.append_assoc]
      exact readNatural_literal hblanks (notNatural_number_real n hending hsome hrest)
  | negative n hending =>
      rw [List.cons_append, readNatural, skipBlanks_append_cons hblanks (by decide)]
      exact natural_eq_error (notNatural_number_negative _)
  | _ => exact hmisplaced (by decide) (by decide) (by decide)

end Occupancy.Json
