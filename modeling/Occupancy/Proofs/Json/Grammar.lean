import Occupancy.Proofs.Json.Natural

/-! JSON texts as a grammar: what a text says, and all forms in which it may be written. Blanks may stand around every
token, and every character of a string has its plain form and its escapes. -/

namespace Occupancy.Json

open Ascii Text

/-- What a text says. Numbers are told apart only as far as integers without sign, fraction and exponent go. -/
inductive Tree
  | null
  | boolean (value : Bool)
  | natural (n : Nat)
  | number
  | string (s : String)
  | list (items : List Tree)
  | object (members : List (String × Tree))

def AreBlanks (s : List UInt8) : Prop := ∀ b ∈ s, isBlank b = true

theorem areBlanks_nil : AreBlanks [] := nofun

/-! ### Numbers -/

structure AreDigits (s : List UInt8) : Prop where
  nonempty : s ≠ []
  digits : ∀ b ∈ s, isDigit b = true

inductive IsFraction : List UInt8 → Prop
  | absent : IsFraction []
  | present {ds : List UInt8} (hdigits : AreDigits ds) : IsFraction (point :: ds)

inductive IsExponent : List UInt8 → Prop
  | absent : IsExponent []
  | present {letter : UInt8} {sign ds : List UInt8} (hletter : letter = lowerE ∨ letter = upperE)
      (hsign : sign = [] ∨ sign = [plus] ∨ sign = [minus]) (hdigits : AreDigits ds) :
      IsExponent (letter :: (sign ++ ds))

/-- What a number literal may have behind its integer digits. -/
inductive IsLiteralEnd : List UInt8 → Prop
  | mk {fraction exponent : List UInt8} (hfraction : IsFraction fraction) (hexponent : IsExponent exponent) :
      IsLiteralEnd (fraction ++ exponent)

/-! ### Values -/

/-- The parts of a text: a value, a member of an object, and the rest of a list or an object behind its first item or
member, closing bracket or brace included. -/
inductive Phrase
  | value (v : Tree)
  | items (vs : List Tree)
  | member (key : String) (v : Tree)
  | members (ms : List (String × Tree))

/-- The forms of a part of a text. Blanks belong to the token behind them; a part does not begin with blanks, but for
the rest of a list or an object. -/
inductive Writes : Phrase → List UInt8 → Prop
  | nullWord : Writes (.value .null) (lowerN :: ull)
  | trueWord : Writes (.value (.boolean true)) (lowerT :: rue)
  | falseWord : Writes (.value (.boolean false)) (lowerF :: alse)
  | natural (n : Nat) : Writes (.value (.natural n)) (digits n)
  | real (n : Nat) {ending : List UInt8} (hending : IsLiteralEnd ending) (hsome : ending ≠ []) :
      Writes (.value .number) (digits n ++ ending)
  | negative (n : Nat) {ending : List UInt8} (hending : IsLiteralEnd ending) :
      Writes (.value .number) (minus :: (digits n ++ ending))
  | string {s : String} {forms : List UInt8} (hforms : SpellsAll s.toList forms) :
      Writes (.value (.string s)) (quoteMark :: (forms ++ [quoteMark]))
  | emptyList {blanks : List UInt8} (hblanks : AreBlanks blanks) :
      Writes (.value (.list [])) (openBracket :: (blanks ++ [closeBracket]))
  | list {v : Tree} {vs : List Tree} {blanks first rest : List UInt8} (hblanks : AreBlanks blanks)
      (hfirst : Writes (.value v) first) (hrest : Writes (.items vs) rest) :
      Writes (.value (.list (v :: vs))) (openBracket :: (blanks ++ (first ++ rest)))
  | itemsEnd {blanks : List UInt8} (hblanks : AreBlanks blanks) : Writes (.items []) (blanks ++ [closeBracket])
  | itemsNext {v : Tree} {vs : List Tree} {before blanks first rest : List UInt8} (hbefore : AreBlanks before)
      (hblanks : AreBlanks blanks) (hfirst : Writes (.value v) first) (hrest : Writes (.items vs) rest) :
      Writes (.items (v :: vs)) (before ++ comma :: (blanks ++ (first ++ rest)))
  | member {key : String} {v : Tree} {forms before blanks text : List UInt8} (hkey : SpellsAll key.toList forms)
      (hbefore : AreBlanks before) (hblanks : AreBlanks blanks) (hvalue : Writes (.value v) text) :
      Writes (.member key v) (quoteMark :: (forms ++ quoteMark :: (before ++ Ascii.colon :: (blanks ++ text))))
  | emptyObject {blanks : List UInt8} (hblanks : AreBlanks blanks) :
      Writes (.value (.object [])) (openBrace :: (blanks ++ [closeBrace]))
  | object {key : String} {v : Tree} {ms : List (String × Tree)} {blanks first rest : List UInt8}
      (hblanks : AreBlanks blanks) (hfirst : Writes (.member key v) first) (hrest : Writes (.members ms) rest) :
      Writes (.value (.object ((key, v) :: ms))) (openBrace :: (blanks ++ (first ++ rest)))
  | membersEnd {blanks : List UInt8} (hblanks : AreBlanks blanks) : Writes (.members []) (blanks ++ [closeBrace])
  | membersNext {key : String} {v : Tree} {ms : List (String × Tree)} {before blanks first rest : List UInt8}
      (hbefore : AreBlanks before) (hblanks : AreBlanks blanks) (hfirst : Writes (.member key v) first)
      (hrest : Writes (.members ms) rest) :
      Writes (.members ((key, v) :: ms)) (before ++ comma :: (blanks ++ (first ++ rest)))

/-- A whole text of an object with these members. -/
inductive IsObjectText (members : List (String × Tree)) : List UInt8 → Prop
  | mk {before text after : List UInt8} (hbefore : AreBlanks before)
      (htext : Writes (.value (.object members)) text) (hafter : AreBlanks after) :
      IsObjectText members (before ++ (text ++ after))

/-! ### Blanks and beginnings -/

theorem skipBlanks_append {blanks : List UInt8} (h : AreBlanks blanks) (s : List UInt8) :
    skipBlanks (blanks ++ s) = skipBlanks s := List.dropWhile_append_of_pos h

theorem skipBlanks_eq_nil {blanks : List UInt8} (h : AreBlanks blanks) : skipBlanks blanks = [] := by
  have happend := skipBlanks_append h []
  rw [List.append_nil] at happend
  exact happend

theorem skipBlanks_cons {b : UInt8} (h : isBlank b = false) (s : List UInt8) : skipBlanks (b :: s) = b :: s := by
  rw [skipBlanks, List.dropWhile_cons, h, if_neg Bool.false_ne_true]

/-- Blanks in front of a token that is no blank are skipped, and nothing else. -/
theorem skipBlanks_append_cons {blanks : List UInt8} (h : AreBlanks blanks) {b : UInt8} (hb : isBlank b = false)
    (s : List UInt8) : skipBlanks (blanks ++ b :: s) = b :: s := by
  rw [skipBlanks_append h, skipBlanks_cons hb]

/-- The first byte of a value tells what kind of value it is. -/
def Begins (b : UInt8) : Tree → Prop
  | .null => b = lowerN
  | .boolean true => b = lowerT
  | .boolean false => b = lowerF
  | .natural _ => isDigit b = true
  | .number => isDigit b = true ∨ b = minus
  | .string _ => b = quoteMark
  | .list _ => b = openBracket
  | .object _ => b = openBrace

theorem isDigit_head_digits (n : Nat) : ∃ b bs, digits n = b :: bs ∧ isDigit b = true := by
  obtain ⟨b, bs, heq, -⟩ := digits_eq_cons n
  exact ⟨b, bs, heq, isDigit_of_mem_digits b (heq ▸ List.mem_cons_self)⟩

theorem Writes.exists_head {v : Tree} {s : List UInt8} (h : Writes (.value v) s) :
    ∃ b bs, s = b :: bs ∧ Begins b v := by
  cases h with
  | natural n => exact isDigit_head_digits n
  | @real n ending _ _ =>
      obtain ⟨b, bs, heq, hb⟩ := isDigit_head_digits n
      exact ⟨b, bs ++ ending, by rw [heq, List.cons_append], Or.inl hb⟩
  | negative => exact ⟨_, _, rfl, Or.inr rfl⟩
  | nullWord => exact ⟨_, _, rfl, rfl⟩
  | trueWord => exact ⟨_, _, rfl, rfl⟩
  | falseWord => exact ⟨_, _, rfl, rfl⟩
  | string => exact ⟨_, _, rfl, rfl⟩
  | emptyList => exact ⟨_, _, rfl, rfl⟩
  | list => exact ⟨_, _, rfl, rfl⟩
  | emptyObject => exact ⟨_, _, rfl, rfl⟩
  | object => exact ⟨_, _, rfl, rfl⟩

/-- No value begins with a blank or with a byte that ends a list. -/
theorem Begins.isBlank_eq_false {b : UInt8} {v : Tree} (h : Begins b v) : isBlank b = false ∧ b ≠ closeBracket := by
  have hdigit (hb : isDigit b = true) : isBlank b = false ∧ b ≠ closeBracket := by
    refine ⟨isBlank_of_isDigit hb, ?_⟩
    rintro rfl
    exact absurd hb (by decide)
  cases v with
  | natural n => exact hdigit h
  | number =>
      rcases h with hb | rfl
      · exact hdigit hb
      · exact ⟨by decide, by decide⟩
  | boolean value => cases value <;> cases h <;> exact ⟨by decide, by decide⟩
  | _ => cases h; exact ⟨by decide, by decide⟩

theorem eq_string_of_begins {v : Tree} (h : Begins quoteMark v) : ∃ t, v = .string t := by
  cases v with
  | string t => exact ⟨t, rfl⟩
  | boolean value => cases value <;> exact absurd h (by dsimp only [Begins]; decide)
  | _ => exact absurd h (by dsimp only [Begins]; decide)

theorem eq_null_of_begins {v : Tree} (h : Begins lowerN v) : v = .null := by
  cases v with
  | null => rfl
  | boolean value => cases value <;> exact absurd h (by dsimp only [Begins]; decide)
  | _ => exact absurd h (by dsimp only [Begins]; decide)

/-- What may follow a value does not go on with a literal. -/
theorem endsLiteral_append {blanks : List UInt8} (h : AreBlanks blanks) {rest : List UInt8} (hrest : EndsLiteral rest) :
    EndsLiteral (blanks ++ rest) := by
  cases blanks with
  | nil => exact hrest
  | cons b bs =>
      intro c cs heq
      cases heq
      have hblank := h b List.mem_cons_self
      simp only [isBlank, Bool.or_eq_true, beq_iff_eq] at hblank
      rcases hblank with ((rfl | rfl) | rfl) | rfl <;> exact ⟨by decide, by decide, by decide, by decide⟩

theorem endsLiteral_closeBracket (bs : List UInt8) : EndsLiteral (closeBracket :: bs) := by
  intro b _ heq
  cases heq
  exact ⟨by decide, by decide, by decide, by decide⟩

theorem Writes.endsLiteral_items {vs : List Tree} {s : List UInt8} (h : Writes (.items vs) s) (rest : List UInt8) :
    EndsLiteral (s ++ rest) := by
  cases h with
  | itemsEnd hblanks =>
      rw [List.append_assoc]
      exact endsLiteral_append hblanks (endsLiteral_closeBracket _)
  | itemsNext hbefore =>
      rw [List.append_assoc]
      exact endsLiteral_append hbefore (endsLiteral_comma _)

theorem Writes.endsLiteral_members {ms : List (String × Tree)} {s : List UInt8} (h : Writes (.members ms) s)
    (rest : List UInt8) : EndsLiteral (s ++ rest) := by
  cases h with
  | membersEnd hblanks =>
      rw [List.append_assoc]
      exact endsLiteral_append hblanks (endsLiteral_closeBrace _)
  | membersNext hbefore =>
      rw [List.append_assoc]
      exact endsLiteral_append hbefore (endsLiteral_comma _)

end Occupancy.Json
