/-! The bytes of a text. Characters up to 127 are single bytes, all other characters have larger bytes only; the bytes of a
text read back as the text; and texts in order have their bytes in order. -/

namespace Occupancy.Text

/-- The bytes of characters one after the other. -/
def utf8 (chars : List Char) : List UInt8 := chars.flatMap String.utf8EncodeChar

theorem utf8_append (front back : List Char) : utf8 (front ++ back) = utf8 front ++ utf8 back := List.flatMap_append

theorem utf8_cons (c : Char) (chars : List Char) : utf8 (c :: chars) = String.utf8EncodeChar c ++ utf8 chars :=
  List.flatMap_cons

theorem loop_toList (bytes : ByteArray) (i : Nat) (r : List UInt8) :
    ByteArray.toList.loop bytes i r = r.reverse ++ bytes.data.toList.drop i := by
  fun_induction ByteArray.toList.loop bytes i r with
  | case1 i r hi ih =>
      have hi' : i < bytes.data.toList.length := by
        rw [Array.length_toList]
        exact hi
      have hget : bytes.get! i = bytes.data.toList[i] := by
        rw [Array.getElem_toList]
        exact getElem!_pos bytes.data i hi
      calc
        ByteArray.toList.loop bytes (i + 1) (bytes.get! i :: r)
          = (bytes.get! i :: r).reverse ++ bytes.data.toList.drop (i + 1) := ih
        _ = r.reverse ++ bytes.data.toList[i] :: bytes.data.toList.drop (i + 1) := by
          rw [List.reverse_cons, List.append_assoc, hget]
          rfl
        _ = r.reverse ++ bytes.data.toList.drop i := by rw [List.drop_eq_getElem_cons hi']
  | case2 i r hi =>
      have hi' : bytes.data.toList.length ≤ i := by
        rw [Array.length_toList]
        exact Nat.not_lt.mp hi
      rw [List.drop_eq_nil_of_le hi', List.append_nil]

theorem toList_eq (bytes : ByteArray) : bytes.toList = bytes.data.toList := loop_toList bytes 0 []

theorem toList_toByteArray (bytes : List UInt8) : bytes.toByteArray.toList = bytes := by
  rw [toList_eq, List.toList_data_toByteArray]

theorem toByteArray_utf8 (s : String) : (utf8 s.toList).toByteArray = s.toByteArray := by
  rw [← String.utf8Encode_toList]
  rfl

theorem toList_bytes (s : String) : s.toByteArray.toList = utf8 s.toList := by
  rw [← toByteArray_utf8, toList_toByteArray]

theorem length_utf8 (s : String) : (utf8 s.toList).length = s.utf8ByteSize := by
  rw [← List.size_toByteArray, toByteArray_utf8, String.size_toByteArray]

/-- The bytes of a text stand for this text. -/
theorem fromUTF8?_utf8 (s : String) : String.fromUTF8? (utf8 s.toList).toByteArray = some s := by
  rw [toByteArray_utf8, String.fromUTF8?, dif_pos s.isValidUTF8]
  rfl

theorem utf8EncodeChar_of_lt {c : Char} (h : c.toNat < 128) :
    String.utf8EncodeChar c = [UInt8.ofNat c.toNat] := if_pos (Nat.le_of_lt_succ h)

/-- A character that is not a single byte has no byte in common with one that is. -/
theorem le_of_mem_utf8EncodeChar {c : Char} (h : 128 ≤ c.toNat) {b : UInt8} (hb : b ∈ String.utf8EncodeChar c) :
    128 ≤ b.toNat := by
  have hlarge : ¬c.val.toNat ≤ 0x7f := Nat.not_le.mpr h
  have hbyte (n : Nat) (hn : 128 ≤ n) (hn' : n < 256) : 128 ≤ (UInt8.ofNat n).toNat := by
    rw [UInt8.toNat_ofNat', Nat.mod_eq_of_lt hn']
    exact hn
  unfold String.utf8EncodeChar at hb
  simp only [hlarge, if_false] at hb
  split at hb
  · simp only [List.mem_cons, List.not_mem_nil, or_false] at hb
    rcases hb with rfl | rfl <;> exact hbyte _ (by omega) (by omega)
  · split at hb
    · simp only [List.mem_cons, List.not_mem_nil, or_false] at hb
      rcases hb with rfl | rfl | rfl <;> exact hbyte _ (by omega) (by omega)
    · simp only [List.mem_cons, List.not_mem_nil, or_false] at hb
      rcases hb with rfl | rfl | rfl | rfl <;> exact hbyte _ (by omega) (by omega)

/-! ### Bytes in order -/

section Order

variable {c d : Char} {s t : List Char} {back rest : List UInt8} {m n : Nat}

/-- Bytes are in order if the first ones are, where those behind them decide if the first ones are equal. -/
theorem ofNat_cons_lt (hn : n < 256) (hle : m ≤ n) (h : m = n → back < rest) :
    UInt8.ofNat m :: back < UInt8.ofNat n :: rest := by
  rcases Nat.lt_or_eq_of_le hle with hlt | heq
  · refine .rel ?_
    rw [UInt8.lt_iff_toNat_lt, UInt8.toNat_ofNat_of_lt' (Nat.lt_trans hlt hn), UInt8.toNat_ofNat_of_lt' hn]
    exact hlt
  · rw [heq]
    exact .cons (h heq)

/-- The bytes of a smaller character come first, whatever is behind them. A character with more bytes has a larger first
byte, and where there are equally many the bytes are digits, the highest one first. -/
theorem utf8EncodeChar_append_lt (h : c < d) (back rest : List UInt8) :
    String.utf8EncodeChar c ++ back < String.utf8EncodeChar d ++ rest := by
  have hlt : c.val.toNat < d.val.toNat := UInt32.lt_iff_toNat_lt.mp h
  have hlimit : d.val.toNat < 0x110000 := by
    rcases d.valid with hvalid | ⟨-, hvalid⟩ <;> omega
  unfold String.utf8EncodeChar
  generalize c.val.toNat = m at hlt
  generalize d.val.toNat = n at hlt hlimit
  dsimp only
  by_cases hone : n ≤ 0x7f
  · rw [if_pos hone, if_pos (by omega)]
    exact ofNat_cons_lt (by omega) (by omega) fun heq => by omega
  by_cases htwo : n ≤ 0x7ff
  · rw [if_neg hone, if_pos htwo]
    split
    · exact ofNat_cons_lt (by omega) (by omega) fun heq => by omega
    · rw [if_pos (by omega)]
      refine ofNat_cons_lt (by omega) (by omega) fun hfirst => ?_
      exact ofNat_cons_lt (by omega) (by omega) fun heq => by omega
  by_cases hthree : n ≤ 0xffff
  · rw [if_neg hone, if_neg htwo, if_pos hthree]
    split
    · exact ofNat_cons_lt (by omega) (by omega) fun heq => by omega
    split
    · exact ofNat_cons_lt (by omega) (by omega) fun heq => by omega
    · rw [if_pos (by omega)]
      refine ofNat_cons_lt (by omega) (by omega) fun hfirst => ?_
      refine ofNat_cons_lt (by omega) (by omega) fun hsecond => ?_
      exact ofNat_cons_lt (by omega) (by omega) fun heq => by omega
  · rw [if_neg hone, if_neg htwo, if_neg hthree]
    split
    · exact ofNat_cons_lt (by omega) (by omega) fun heq => by omega
    split
    · exact ofNat_cons_lt (by omega) (by omega) fun heq => by omega
    split
    · exact ofNat_cons_lt (by omega) (by omega) fun heq => by omega
    · refine ofNat_cons_lt (by omega) (by omega) fun hfirst => ?_
      refine ofNat_cons_lt (by omega) (by omega) fun hsecond => ?_
      refine ofNat_cons_lt (by omega) (by omega) fun hthird => ?_
      exact ofNat_cons_lt (by omega) (by omega) fun heq => by omega

theorem utf8_cons_ne_nil (c : Char) (s : List Char) : utf8 (c :: s) ≠ [] := by
  rw [utf8_cons]
  exact List.append_ne_nil_of_left_ne_nil String.utf8EncodeChar_ne_nil _

/-- Texts in order have their bytes in order. -/
theorem utf8_lt (h : s < t) : utf8 s < utf8 t := by
  induction h with
  | nil =>
      obtain ⟨b, bs, hbytes⟩ := List.exists_cons_of_ne_nil (utf8_cons_ne_nil _ _)
      rw [hbytes]
      exact .nil
  | cons _ ih =>
      rw [utf8_cons, utf8_cons]
      exact List.append_left_lt ih
  | rel hlt =>
      rw [utf8_cons, utf8_cons]
      exact utf8EncodeChar_append_lt hlt _ _

end Order

end Occupancy.Text
