import Occupancy.Text.Blank

/-! Byte order of 32-bit integers, and the tag that declares it. Four bytes and the word they stand for determine
each other in either order. -/

namespace Occupancy

inductive ByteOrder
  | little
  | big
deriving Repr, DecidableEq

namespace ByteOrder

/-- A tag that begins with `big`, in either case and blanks aside, declares big-endian order; any other tag, and
none, little-endian order. -/
def ofTag : Option String → ByteOrder
  | none => little
  | some tag => if ['b', 'i', 'g'].isPrefixOf (Text.tagWord tag) then big else little

/-- The word with these bytes, the lowest one first. -/
def compose (a b c d : UInt8) : UInt32 :=
  UInt32.ofNat (a.toNat + 0x100 * b.toNat + 0x10000 * c.toNat + 0x1000000 * d.toNat)

/-- The byte of a word that counts in units of `unit`. -/
def byteAt (word : UInt32) (unit : Nat) : UInt8 := UInt8.ofNat (word.toNat / unit)

/-- The 32 bits that four bytes stand for. -/
def word (order : ByteOrder) (a b c d : UInt8) : UInt32 :=
  match order with
  | little => compose a b c d
  | big => compose d c b a

/-- The four bytes that stand for 32 bits. -/
def bytes (order : ByteOrder) (word : UInt32) : List UInt8 :=
  match order with
  | little => [byteAt word 1, byteAt word 0x100, byteAt word 0x10000, byteAt word 0x1000000]
  | big => [byteAt word 0x1000000, byteAt word 0x10000, byteAt word 0x100, byteAt word 1]

theorem length_bytes (order : ByteOrder) (word : UInt32) : (order.bytes word).length = 4 := by
  cases order <;> rfl

theorem toNat_compose (a b c d : UInt8) :
    (compose a b c d).toNat = a.toNat + 0x100 * b.toNat + 0x10000 * c.toNat + 0x1000000 * d.toNat := by
  have ha := a.toNat_lt
  have hb := b.toNat_lt
  have hc := c.toNat_lt
  have hd := d.toNat_lt
  rw [compose, UInt32.toNat_ofNat']
  omega

theorem compose_byteAt (word : UInt32) :
    compose (byteAt word 1) (byteAt word 0x100) (byteAt word 0x10000) (byteAt word 0x1000000) = word := by
  have hword := word.toNat_lt
  apply UInt32.toNat_inj.mp
  simp only [toNat_compose, byteAt, UInt8.toNat_ofNat']
  omega

theorem byteAt_compose (a b c d : UInt8) :
    byteAt (compose a b c d) 1 = a ∧ byteAt (compose a b c d) 0x100 = b ∧
      byteAt (compose a b c d) 0x10000 = c ∧ byteAt (compose a b c d) 0x1000000 = d := by
  have ha := a.toNat_lt
  have hb := b.toNat_lt
  have hc := c.toNat_lt
  have hd := d.toNat_lt
  refine ⟨?_, ?_, ?_, ?_⟩ <;>
    · apply UInt8.toNat_inj.mp
      simp only [toNat_compose, byteAt, UInt8.toNat_ofNat']
      omega

theorem bytes_word (order : ByteOrder) (a b c d : UInt8) : order.bytes (order.word a b c d) = [a, b, c, d] := by
  cases order with
  | little =>
    obtain ⟨ha, hb, hc, hd⟩ := byteAt_compose a b c d
    simp only [bytes, word, ha, hb, hc, hd]
  | big =>
    obtain ⟨hd, hc, hb, ha⟩ := byteAt_compose d c b a
    simp only [bytes, word, ha, hb, hc, hd]

end ByteOrder

end Occupancy
