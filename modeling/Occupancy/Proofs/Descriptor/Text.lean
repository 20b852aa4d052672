import Occupancy.Proofs.Descriptor.Acceptance
import Occupancy.Proofs.Json.Compact

/-! Descriptors read back. The text of a descriptor is the compact text of an object whose members describe it. -/

namespace Occupancy.Descriptor

open Json Text

/-- The members of a descriptor as it is written. -/
def writtenMembers (d : Descriptor) : List (String × Tree) :=
  memberTrees (Field.all.map fun field => (field.key, d.fieldValue field))

theorem isObjectText_text (d : Descriptor) : IsObjectText d.writtenMembers (utf8 d.text.toList) := by
  have htext : IsObjectText d.writtenMembers ([] ++ (utf8 d.text.toList ++ [])) :=
    .mk areBlanks_nil (writes_text d.toJson) areBlanks_nil
  rw [List.append_nil, List.nil_append] at htext
  exact htext

theorem describes_writtenMembers (d : Descriptor) : Describes d.writtenMembers d where
  algorithm := rfl
  numBuckets := rfl
  numInputs := rfl
  countsFile := rfl
  countsDtype := Or.inl rfl
  endianness := by
    obtain ⟨name, buckets, inputs, file, dtype, tag⟩ := d
    cases tag <;> exact Or.inl rfl

/-- A descriptor reads back from its text. -/
theorem read_text (d : Descriptor) : read d.text.toByteArray.toList = .ok d := by
  rw [toList_bytes]
  exact (read_eq_ok_iff d.isObjectText_text).mpr d.describes_writtenMembers

end Occupancy.Descriptor
