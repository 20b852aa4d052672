import Occupancy.Json.Value
import Occupancy.Proofs.Json.Spelling

/-! Strings as they are written: character by character, each in one of the forms that it is read from. -/

namespace Occupancy.Json

open Ascii Text

/-- The byte of a hexadecimal digit. -/
def hexByte (n : Nat) : UInt8 := UInt8.ofNat (Nat.digitChar n).toNat

theorem utf8EncodeChar_digitChar {n : Nat} (h : n < 16) : String.utf8EncodeChar (Nat.digitChar n) = [hexByte n] := by
  have hsmall : ∀ n < 16, (Nat.digitChar n).toNat < 128 := by decide
  exact utf8EncodeChar_of_lt (hsmall n h)

theorem hexValue?_hexByte {n : Nat} (h : n < 16) : hexValue? (hexByte n) = some n := by
  have hall : ∀ n < 16, hexValue? (hexByte n) = some n := by decide
  exact hall n h

theorem isUnit_controlDigits {c : Char} (h : c.toNat < 32) :
    IsUnit [zero, zero, hexByte (c.toNat / 16), hexByte (c.toNat % 16)] c.toNat := by
  have hhigh := hexValue?_hexByte (n := c.toNat / 16) (by omega)
  have hlow := hexValue?_hexByte (n := c.toNat % 16) (by omega)
  have hzero : hexValue? zero = some 0 := by decide
  refine ⟨rfl, ?_⟩
  simp only [hexNumber?, List.foldlM_cons, List.foldlM_nil, hhigh, hlow, hzero, Option.map_some,
    Option.bind_eq_bind, Option.bind_some, Option.pure_def, Option.some.injEq]
  omega

theorem utf8_controlDigits {c : Char} (h : c.toNat < 32) :
    utf8 ('\\' :: 'u' :: controlDigits c) =
      backslash :: lowerU :: [zero, zero, hexByte (c.toNat / 16), hexByte (c.toNat % 16)] := by
  have hhigh := utf8EncodeChar_digitChar (n := c.toNat / 16) (by omega)
  have hlow := utf8EncodeChar_digitChar (n := c.toNat % 16) (by omega)
  simp only [controlDigits, utf8, List.flatMap_cons, List.flatMap_nil, hhigh, hlow]
  rfl

/-- What a character is written as is one of its forms. -/
theorem spells_escapeChar (c : Char) : Spells c (utf8 (escapeChar c)) := by
  unfold escapeChar
  split
  · exact .short quoteMark (by decide)
  · exact .short backslash (by decide)
  · exact .short 98 (by decide)
  · exact .short lowerT (by decide)
  · exact .short lowerN (by decide)
  · exact .short lowerF (by decide)
  · exact .short 114 (by decide)
  rename_i hquote hbackslash _ _ _ _ _
  split
  · rename_i hcontrol
    rw [utf8_controlDigits hcontrol]
    exact .unit (isUnit_controlDigits hcontrol)
  · rename_i hcontrol
    rw [utf8, List.flatMap_singleton]
    exact .plain hquote hbackslash (Nat.not_lt.mp hcontrol)

theorem spellsAll_escaped (chars : List Char) : SpellsAll chars (utf8 (chars.flatMap escapeChar)) := by
  induction chars with
  | nil => exact .nil
  | cons c chars ih =>
      rw [List.flatMap_cons, utf8_append]
      exact .cons (spells_escapeChar c) ih

theorem utf8_stringText (s : String) :
    utf8 (stringText s).toList = quoteMark :: (utf8 (s.toList.flatMap escapeChar) ++ [quoteMark]) := by
  rw [stringText, String.toList_ofList, utf8_cons, utf8_append]
  rfl

end Occupancy.Json
