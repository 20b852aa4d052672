import Occupancy.Proofs.Descriptor.Acceptance
import Occupancy.Proofs.Json.Quoted
import Occupancy.Proofs.Loading.Verdict

/-! Which object texts are loaded as descriptors. The members decide, whatever order they have and whatever else stands
among them, and not the spelling of the text. -/

namespace Occupancy.Loading

open Descriptor Json Text

variable {files : FileSystem} {path : Path} {content : Content} {ms : List (String × Tree)} {d : Descriptor}

theorem loadDescriptor_eq_ok_iff (hopen : files.openEntry path = .ok (.file content))
    (htext : IsObjectText ms content.toBytes) :
    loadDescriptor files path = .ok d ↔ Describes ms d ∧ d.numBuckets ≠ 0 := by
  rw [loadDescriptor_eq hopen, ← read_eq_ok_iff htext]
  cases Descriptor.read content.toBytes with
  | error cause => simp only [reduceCtorEq, false_and]
  | ok read =>
      by_cases hbuckets : read.numBuckets = 0
      · simp only [hbuckets, if_true, reduceCtorEq, Except.ok.injEq, false_iff]
        rintro ⟨rfl, hsome⟩
        exact hsome hbuckets
      · simp only [hbuckets, if_false, Except.ok.injEq]
        constructor
        · rintro rfl
          exact ⟨rfl, hbuckets⟩
        · exact And.left

/-- **Acceptance of descriptors.** An object text is loaded exactly if its members are those of a descriptor with
buckets, and then it is loaded as what they describe. Another text gives the same descriptor, or is refused as well, if
its members with a meaning are the same in any order. -/
theorem loadDescriptor_objectText (hopen : files.openEntry path = .ok (.file content))
    (htext : IsObjectText ms content.toBytes) :
    ((∃ d, loadDescriptor files path = .ok d) ↔ Acceptable ms) ∧
    (∀ d, loadDescriptor files path = .ok d ↔ Describes ms d ∧ d.numBuckets ≠ 0) ∧
    ∀ (files' : FileSystem) (path' : Path) (content' : Content) (ms' : List (String × Tree)),
      files'.openEntry path' = .ok (.file content') → IsObjectText ms' content'.toBytes →
      (recognised ms).Perm (recognised ms') →
      (loadDescriptor files' path').toOption = (loadDescriptor files path).toOption := by
  have hload (d : Descriptor) := loadDescriptor_eq_ok_iff (d := d) hopen htext
  refine ⟨?_, hload, ?_⟩
  · constructor
    · rintro ⟨d, hd⟩
      obtain ⟨hdescribes, hbuckets⟩ := (hload d).mp hd
      exact hdescribes.acceptable hbuckets
    · intro h
      obtain ⟨d, hd⟩ := h.exists_describes
      exact ⟨d, (hload d).mpr hd⟩
  · intro files' path' content' ms' hopen' htext' hperm
    have hsame (d : Descriptor) : loadDescriptor files' path' = .ok d ↔ loadDescriptor files path = .ok d := by
      rw [hload, loadDescriptor_eq_ok_iff hopen' htext']
      exact and_congr_left' ⟨(·.of_perm hperm.symm), (·.of_perm hperm)⟩
    cases hfirst : loadDescriptor files path with
    | ok d => rw [(hsame d).mpr hfirst]
    | error e =>
        cases hsecond : loadDescriptor files' path' with
        | ok d => rw [(hsame d).mp hsecond] at hfirst; cases hfirst
        | error e' => rfl

/-! ### An object with an unknown member and escapes in a key -/

def strayMembers : List (String × Tree) :=
  [("numInputs", .natural 18446744073709551615), ("notes", .object [("algorithm", .list [.null, .number])]),
   ("numBuckets", .natural 2), ("countsFile", .string "a.bin"), ("endianness", .null), ("algorithm", .string "A")]

def strayText : String :=
  " \x7b\"numInputs\": 18446744073709551615 ,\n\"notes\":\x7b\"algorithm\":[null,-1e5]\x7d,\"numBuckets\":2," ++
    "\"countsFile\":\"a.bin\",\"endianness\":null,\"\\u0061lgorithm\":\"\\u0041\"\x7d\n"

def strayFiles : FileSystem where
  entries := [(["a.meta.json"], .file (.bytes (utf8 strayText.toList)))]
  workingDirectory := []

theorem isObjectText_strayText : IsObjectText strayMembers (utf8 strayText.toList) := by
  have hspace : AreBlanks [32] := List.forall_mem_singleton.mpr rfl
  have hline : AreBlanks [10] := List.forall_mem_singleton.mpr rfl
  have hnone := areBlanks_nil
  have hword (s : String) := spellsAll_escaped s.toList
  have hdigits : AreDigits [53] := ⟨List.cons_ne_nil _ _, List.forall_mem_singleton.mpr rfl⟩
  have hnumber := Writes.negative 1 (.mk .absent (.present (Or.inl rfl) (Or.inl rfl) hdigits))
  have hlist := Writes.list hnone .nullWord (.itemsNext hnone hnone hnumber (.itemsEnd hnone))
  have hnotes := Writes.object hnone (.member (hword "algorithm") hnone hnone hlist) (.membersEnd hnone)
  have hkey : SpellsAll "algorithm".toList ([92, 117, 48, 48, 54, 49] ++ utf8 ("lgorithm".toList.flatMap escapeChar)) :=
    .cons (.unit ⟨rfl, by decide⟩) (hword "lgorithm")
  have hname : SpellsAll "A".toList ([92, 117, 48, 48, 52, 49] ++ []) := .cons (.unit ⟨rfl, by decide⟩) .nil
  have hafterTag := Writes.membersNext hnone hnone (.member hkey hnone hnone (.string hname)) (.membersEnd hnone)
  have hafterFile := Writes.membersNext hnone hnone (.member (hword "endianness") hnone hnone .nullWord) hafterTag
  have hafterBuckets :=
    Writes.membersNext hnone hnone (.member (hword "countsFile") hnone hnone (.string (hword "a.bin"))) hafterFile
  have hafterNotes :=
    Writes.membersNext hnone hnone (.member (hword "numBuckets") hnone hnone (.natural 2)) hafterBuckets
  have hmembers := Writes.membersNext hspace hline (.member (hword "notes") hnone hnone hnotes) hafterNotes
  have htext := Writes.object hnone (.member (hword "numInputs") hnone hspace (.natural 18446744073709551615)) hmembers
  obtain ⟨s, hs, heq⟩ : ∃ s, IsObjectText strayMembers s ∧ s = utf8 strayText.toList :=
    ⟨_, .mk hspace htext hline, by decide +kernel⟩
  exact heq ▸ hs

theorem loadDescriptor_strayFiles :
    loadDescriptor strayFiles ⟨"a.meta.json"⟩ =
      .ok ⟨"A", 2, 18446744073709551615, "a.bin", "int32", none⟩ ∧ Acceptable strayMembers := by
  have hopen : strayFiles.openEntry ⟨"a.meta.json"⟩ = .ok (.file (.bytes (utf8 strayText.toList))) := rfl
  obtain ⟨haccepted, hload, -⟩ := loadDescriptor_objectText hopen isObjectText_strayText
  have hfields : Describes strayMembers ⟨"A", 2, 18446744073709551615, "a.bin", "int32", none⟩ :=
    ⟨rfl, rfl, rfl, rfl, Or.inr ⟨rfl, rfl⟩, Or.inl rfl⟩
  have hloaded := (hload _).mpr ⟨hfields, by decide⟩
  exact ⟨hloaded, haccepted.mp ⟨_, hloaded⟩⟩

end Occupancy.Loading
