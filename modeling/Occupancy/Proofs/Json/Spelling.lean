import Occupancy.Json.Typed
import Occupancy.Proofs.Text.Utf8

/-! The forms in which a string may be written. Every character has its plain form, unless it is the quote, the
backslash or a control character, and its escapes; whichever form is chosen, the reader is in plain text before and
behind it and has read the character. -/

namespace Occupancy.Json

open Ascii Text

variable {keep : Bool} {written rest : List UInt8} {c : Char}

/-- The letters of the short escapes and the characters that they stand for. -/
def shortEscapes : List (UInt8 × Char) :=
  [(quoteMark, '"'), (backslash, '\\'), (47, '/'), (98, '\x08'), (lowerF, '\x0c'), (lowerN, '\n'), (114, '\r'),
   (lowerT, '\t')]

/-- Four hexadecimal digits for a number of 16 bits. -/
structure IsUnit (digits : List UInt8) (unit : Nat) : Prop where
  length : digits.length = 4
  value : hexNumber? digits = some unit

/-- The forms of a character: itself, a short escape, its number, and beyond 16 bits its two surrogates. -/
inductive Spells (c : Char) : List UInt8 → Prop
  | plain (hquote : c ≠ '"') (hbackslash : c ≠ '\\') (hcontrol : 32 ≤ c.toNat) : Spells c (String.utf8EncodeChar c)
  | short (letter : UInt8) (hletter : (letter, c) ∈ shortEscapes) : Spells c [backslash, letter]
  | unit {digits : List UInt8} (hdigits : IsUnit digits c.toNat) : Spells c (backslash :: lowerU :: digits)
  | pair {first second : List UInt8} {high low : Nat} (hfirst : IsUnit first high) (hsecond : IsUnit second low)
      (hhigh : isHighSurrogate high = true) (hlow : isLowSurrogate low = true) (hcode : pairCode high low = c.toNat) :
      Spells c (backslash :: lowerU :: (first ++ backslash :: lowerU :: second))

/-- A string between its quotes, character by character. -/
inductive SpellsAll : List Char → List UInt8 → Prop
  | nil : SpellsAll [] []
  | cons {c : Char} {chars : List Char} {form forms : List UInt8} (hfirst : Spells c form)
      (hrest : SpellsAll chars forms) : SpellsAll (c :: chars) (form ++ forms)

/-! ### One step of the reader -/

theorem stringBytes_more {state next : StringState} {b : UInt8} {more : List UInt8}
    (h : state.step keep b = .more next more) :
    stringBytes keep state written (b :: rest) = stringBytes keep next (more.reverse ++ written) rest := by
  rw [stringBytes, h]

/-- A byte that stands for itself in a string. -/
structure IsPlain (b : UInt8) : Prop where
  not_quote : b ≠ quoteMark
  not_backslash : b ≠ backslash
  not_control : ¬b < 32

theorem IsPlain.step {b : UInt8} (h : IsPlain b) (keep : Bool) : StringState.plain.step keep b = .more .plain [b] := by
  rw [StringState.step, if_neg h.not_quote, if_neg h.not_backslash, if_neg h.not_control]

theorem stringBytes_plain {bytes : List UInt8} (h : ∀ b ∈ bytes, IsPlain b) (keep : Bool) :
    stringBytes keep .plain written (bytes ++ rest) = stringBytes keep .plain (bytes.reverse ++ written) rest := by
  induction bytes generalizing written with
  | nil => rfl
  | cons b bytes ih =>
      rw [List.cons_append, stringBytes_more ((h b List.mem_cons_self).step keep),
        ih fun b hb => h b (List.mem_cons_of_mem _ hb)]
      simp only [List.reverse_cons, List.reverse_nil, List.nil_append, List.append_assoc, List.cons_append]

/-- No byte of a plain character is taken for a quote, a backslash or a control character. -/
theorem isPlain_of_mem_utf8EncodeChar (hquote : c ≠ '"') (hbackslash : c ≠ '\\') (hcontrol : 32 ≤ c.toNat)
    {b : UInt8} (hb : b ∈ String.utf8EncodeChar c) : IsPlain b := by
  by_cases hc : c.toNat < 128
  · rw [utf8EncodeChar_of_lt hc, List.mem_singleton] at hb
    have hbyte : b.toNat = c.toNat := by
      rw [hb, UInt8.toNat_ofNat', Nat.mod_eq_of_lt (by omega)]
    refine ⟨?_, ?_, ?_⟩
    · rintro rfl
      exact hquote (Char.toNat_inj.mp hbyte.symm)
    · rintro rfl
      exact hbackslash (Char.toNat_inj.mp hbyte.symm)
    · rw [UInt8.lt_iff_toNat_lt, hbyte]
      exact Nat.not_lt.mpr hcontrol
  · have hlarge := le_of_mem_utf8EncodeChar (Nat.not_lt.mp hc) hb
    refine ⟨?_, ?_, ?_⟩
    · rintro rfl
      exact absurd hlarge (by decide)
    · rintro rfl
      exact absurd hlarge (by decide)
    · rw [UInt8.lt_iff_toNat_lt, Nat.not_lt]
      exact Nat.le_trans (by decide) hlarge

/-! ### Escapes -/

theorem exists_of_length_eq_four {digits : List UInt8} (h : digits.length = 4) :
    ∃ d₁ d₂ d₃ d₄, digits = [d₁, d₂, d₃, d₄] := by
  match digits, h with
  | [d₁, d₂, d₃, d₄], _ => exact ⟨d₁, d₂, d₃, d₄, rfl⟩

/-- The reader takes the four digits of an escape at once. -/
theorem stringBytes_digits {digits more : List UInt8} {next : StringState} (hlength : digits.length = 4)
    (h : afterDigits keep digits = .more next more) :
    stringBytes keep .plain written (backslash :: lowerU :: (digits ++ rest)) =
      stringBytes keep next (more.reverse ++ written) rest := by
  obtain ⟨d₁, d₂, d₃, d₄, rfl⟩ := exists_of_length_eq_four hlength
  show stringBytes keep (.digits [d₁, d₂, d₃]) written (d₄ :: rest) = _
  exact stringBytes_more h

theorem stringBytes_pairDigits {digits more : List UInt8} {high : Nat} {next : StringState}
    (hlength : digits.length = 4) (h : afterPair high digits = .more next more) :
    stringBytes keep (.pairBackslash high) written (backslash :: lowerU :: (digits ++ rest)) =
      stringBytes keep next (more.reverse ++ written) rest := by
  obtain ⟨d₁, d₂, d₃, d₄, rfl⟩ := exists_of_length_eq_four hlength
  show stringBytes keep (.pairDigits high [d₁, d₂, d₃]) written (d₄ :: rest) = _
  exact stringBytes_more h

/-- A string that is only passed over may have any number in an escape. -/
theorem afterDigits_pass {digits : List UInt8} {unit : Nat} (h : IsUnit digits unit) :
    afterDigits false digits = .more .plain [] := by
  simp only [afterDigits, h.value, Bool.not_false, if_true]

/-- A character is no surrogate. -/
theorem afterDigits_char {digits : List UInt8} (h : IsUnit digits c.toNat) :
    afterDigits true digits = .more .plain (String.utf8EncodeChar c) := by
  have hvalid : c.toNat < 0xD800 ∨ 0xDFFF < c.toNat := by
    rcases c.valid with hlow | ⟨hhigh, -⟩
    · exact Or.inl hlow
    · exact Or.inr hhigh
  have hlow : isLowSurrogate c.toNat = false := by
    simp only [isLowSurrogate, Bool.and_eq_false_iff, decide_eq_false_iff_not]
    omega
  have hhigh : isHighSurrogate c.toNat = false := by
    simp only [isHighSurrogate, Bool.and_eq_false_iff, decide_eq_false_iff_not]
    omega
  simp only [afterDigits, h.value, hlow, hhigh, Bool.not_true, Bool.false_eq_true, if_false, codeBytes,
    Char.ofNat_toNat]

theorem afterDigits_high {digits : List UInt8} {high : Nat} (h : IsUnit digits high)
    (hhigh : isHighSurrogate high = true) : afterDigits true digits = .more (.pairBackslash high) [] := by
  have hlow : isLowSurrogate high = false := by
    simp only [isHighSurrogate, Bool.and_eq_true, decide_eq_true_eq] at hhigh
    simp only [isLowSurrogate, Bool.and_eq_false_iff, decide_eq_false_iff_not]
    omega
  simp only [afterDigits, h.value, hlow, hhigh, Bool.not_true, Bool.false_eq_true, if_false, if_true]

theorem afterPair_low {digits : List UInt8} {high low : Nat} (h : IsUnit digits low)
    (hlow : isLowSurrogate low = true) (hcode : pairCode high low = c.toNat) :
    afterPair high digits = .more .plain (String.utf8EncodeChar c) := by
  simp only [afterPair, h.value, hlow, if_true, codeBytes, hcode, Char.ofNat_toNat]

/-! ### Characters and strings -/

/-- Behind any form of a character the reader is in plain text again, and if it keeps what it reads, it has read that
character. -/
theorem stringBytes_spells (keep : Bool) {form : List UInt8} (h : Spells c form) (written rest : List UInt8) :
    ∃ more, stringBytes keep .plain written (form ++ rest) = stringBytes keep .plain more rest ∧
      (keep = true → more = (String.utf8EncodeChar c).reverse ++ written) := by
  cases h with
  | plain hquote hbackslash hcontrol =>
      exact ⟨_, stringBytes_plain (fun b hb => isPlain_of_mem_utf8EncodeChar hquote hbackslash hcontrol hb) keep,
        fun _ => rfl⟩
  | short letter hletter =>
      simp only [shortEscapes, List.mem_cons, Prod.mk.injEq, List.not_mem_nil, or_false] at hletter
      rcases hletter with ⟨rfl, rfl⟩ | ⟨rfl, rfl⟩ | ⟨rfl, rfl⟩ | ⟨rfl, rfl⟩ | ⟨rfl, rfl⟩ | ⟨rfl, rfl⟩ | ⟨rfl, rfl⟩ |
        ⟨rfl, rfl⟩ <;> exact ⟨_, rfl, fun _ => rfl⟩
  | unit hdigits =>
      rw [List.cons_append, List.cons_append]
      cases keep with
      | true => exact ⟨_, stringBytes_digits hdigits.length (afterDigits_char hdigits), fun _ => rfl⟩
      | false => exact ⟨_, stringBytes_digits hdigits.length (afterDigits_pass hdigits), nofun⟩
  | @pair first second high low hfirst hsecond hhigh hlow hcode =>
      rw [List.cons_append, List.cons_append, List.append_assoc, List.cons_append, List.cons_append]
      cases keep with
      | true =>
          refine ⟨_, ?_, fun _ => rfl⟩
          rw [stringBytes_digits hfirst.length (afterDigits_high hfirst hhigh)]
          exact stringBytes_pairDigits hsecond.length (afterPair_low hsecond hlow hcode)
      | false =>
          refine ⟨written, ?_, nofun⟩
          rw [stringBytes_digits hfirst.length (afterDigits_pass hfirst)]
          exact stringBytes_digits hsecond.length (afterDigits_pass hsecond)

theorem stringBytes_spellsAll (keep : Bool) {chars : List Char} {forms : List UInt8} (h : SpellsAll chars forms)
    (written rest : List UInt8) :
    ∃ more, stringBytes keep .plain written (forms ++ rest) = stringBytes keep .plain more rest ∧
      (keep = true → more = (utf8 chars).reverse ++ written) := by
  induction h generalizing written with
  | nil => exact ⟨written, rfl, fun _ => rfl⟩
  | @cons c chars form forms hfirst _ ih =>
      obtain ⟨between, hbetween, hkept⟩ := stringBytes_spells keep hfirst written (forms ++ rest)
      obtain ⟨more, hmore, hrest⟩ := ih between
      refine ⟨more, ?_, ?_⟩
      · rw [List.append_assoc, hbetween, hmore]
      · intro hkeep
        rw [hrest hkeep, hkept hkeep, utf8_cons, List.reverse_append, List.append_assoc]

/-- Behind its opening quote a string is read from any of its forms. -/
theorem quoted_spells {s : String} {forms : List UInt8} (h : SpellsAll s.toList forms) (rest : List UInt8) :
    quoted (forms ++ quoteMark :: rest) = .ok (s, rest) := by
  obtain ⟨more, hmore, hkept⟩ := stringBytes_spellsAll true h [] (quoteMark :: rest)
  have hclosed : stringBytes true .plain [] (forms ++ quoteMark :: rest) = .ok (utf8 s.toList, rest) := by
    calc
      stringBytes true .plain [] (forms ++ quoteMark :: rest)
        = stringBytes true .plain more (quoteMark :: rest) := hmore
      _ = .ok (more.reverse, rest) := rfl
      _ = .ok (utf8 s.toList, rest) := by rw [hkept rfl, List.append_nil, List.reverse_reverse]
  rw [quoted, hclosed]
  simp only [bind, Except.bind, fromUTF8?_utf8]

theorem passQuoted_spells {chars : List Char} {forms : List UInt8} (h : SpellsAll chars forms) (rest : List UInt8) :
    passQuoted (forms ++ quoteMark :: rest) = .ok rest := by
  obtain ⟨more, hmore, -⟩ := stringBytes_spellsAll false h [] (quoteMark :: rest)
  have hclosed : stringBytes false .plain [] (forms ++ quoteMark :: rest) = .ok (more.reverse, rest) := hmore
  rw [passQuoted, hclosed]
  rfl

end Occupancy.Json
