import Occupancy.Proofs.Chart.FileName
import Occupancy.Proofs.Chart.Surface
import Occupancy.Proofs.Path.Parent

/-! Names of algorithms in the names of their charts. Character by character, a name keeps what file names may have and gets
an underscore for anything else. So whatever an algorithm is called, the path of its chart leads to an entry directly in the
directory of the charts. -/

namespace Occupancy.Chart

variable {c : Char} {name : String}

/-! ### Characters -/

/-- A character that is kept in the names of files. -/
def IsKept (c : Char) : Prop := Text.isAlphanumeric c = true ∨ c = '.' ∨ c = '_' ∨ c = '-'

theorem isSafe_iff : isSafe c = true ↔ IsKept c := by
  simp only [isSafe, IsKept, Bool.or_eq_true, beq_iff_eq, or_assoc]

theorem length_safeName (name : String) : (safeName name).length = name.length := by
  rw [← String.length_toList, toList_safeName, List.length_map, String.length_toList]

theorem safeName_append (a b : String) : safeName (a ++ b) = safeName a ++ safeName b := by
  apply String.toList_inj.mp
  rw [String.toList_append, toList_safeName, toList_safeName, toList_safeName, String.toList_append, List.map_append]

theorem safeName_safeName (name : String) : safeName (safeName name) = safeName name := by
  apply String.toList_inj.mp
  rw [toList_safeName, toList_safeName, List.map_map]
  exact List.map_congr_left fun c _ => safeChar_safeChar c

/-- A name as it is in the names of files: at every place the character that was there if it is kept, and otherwise an
underscore. -/
structure IsSafeForm (name safe : String) : Prop where
  length_eq : safe.length = name.length
  kept (i : Nat) (c : Char) (hc : name.toList[i]? = some c) (hkept : IsKept c) : safe.toList[i]? = some c
  replaced (i : Nat) (c : Char) (hc : name.toList[i]? = some c) (hkept : ¬IsKept c) :
    safe.toList[i]? = some '_' ∧ c ≠ '_'

theorem isSafeForm_safeName (name : String) : IsSafeForm name (safeName name) where
  length_eq := length_safeName name
  kept i c hc hkept := by
    rw [toList_safeName, List.getElem?_map, hc, Option.map_some, safeChar_of_isSafe (isSafe_iff.mpr hkept)]
  replaced i c hc hkept := by
    constructor
    · rw [toList_safeName, List.getElem?_map, hc, Option.map_some, safeChar, if_neg (isSafe_iff.not.mpr hkept)]
    · rintro rfl
      exact hkept (Or.inr (Or.inr (Or.inl rfl)))

/-! ### Paths -/

/-- The path of an entry directly in a directory: the entry's name is one component behind those of the directory, and the
directory is the parent of the path. -/
structure IsEntryPath (dir : Path) (name : String) (p : Path) : Prop where
  isName : Path.IsName name
  components_eq : p.components = dir.components ++ [.name name]
  parent : ∃ parent, p.parent? = some parent ∧ parent.components = dir.components

theorem isEntryPath_join (dir : Path) (hname : Path.IsName name) : IsEntryPath dir name (dir.join ⟨name⟩) :=
  ⟨hname, Path.components_join dir hname, Path.exists_parent?_join dir hname⟩

/-- The path of a chart that is drawn is the one that it was to be drawn to. -/
theorem eq_of_drawIfAny {files : FileSystem} {surface : Surface} {path p : Path}
    {chart : Except ChartError (Drawing Float)} (h : (drawIfAny files surface path chart).result = .ok p) : p = path := by
  rcases draws_or_fails files surface path chart with ⟨drawing, written, later, hdraws⟩ | ⟨e, last, hfails⟩
  · rw [hdraws.drawIfAny_eq] at h
    cases h
    rfl
  · rw [hfails] at h
    cases h

/-- **The names of charts are safe.** The name of any algorithm keeps its length and exactly those of its characters that are
kept in the names of files; doing this again changes nothing, and it can be done piece by piece. The path that a chart of the
algorithm is drawn to is that of an entry directly in the directory, with this name in its own. -/
theorem chart_names_safe (d : Descriptor) :
    IsSafeForm d.algorithm (safeName d.algorithm) ∧
    safeName (safeName d.algorithm) = safeName d.algorithm ∧
    (∀ other, safeName (d.algorithm ++ other) = safeName d.algorithm ++ safeName other) ∧
    ∀ dir : Path, IsEntryPath dir ("hist_" ++ safeName d.algorithm ++ ".png") (dir.join ⟨fileName d.algorithm⟩) ∧
      ∀ files surface h options p, (drawHistogram files surface d h options dir).result = .ok p →
        p = dir.join ⟨fileName d.algorithm⟩ := by
  refine ⟨isSafeForm_safeName _, safeName_safeName _, safeName_append _, fun dir => ⟨?_, ?_⟩⟩
  · exact isEntryPath_join dir (isName_fileName d.algorithm)
  · intro files surface h options p hresult
    exact eq_of_drawIfAny hresult

/-- An algorithm whose name would lead out of the directory. -/
def climbing : Descriptor := ⟨"../x", 1, 0, "x.bin", "int32", none⟩

def chartFolder : FileSystem where
  entries := [(["out"], .directory)]
  workingDirectory := []

/-- Its chart is drawn into the directory all the same. -/
theorem chart_names_safe_climbing :
    (drawHistogram chartFolder .sound climbing ⟨[1]⟩ .default ⟨"out/."⟩).result = .ok ⟨"out/./hist_.._x.png"⟩ ∧
      (Path.mk "out/./hist_.._x.png").components = [.name "out", .name "hist_.._x.png"] := by
  obtain ⟨-, -, -, hpath⟩ := chart_names_safe climbing
  obtain ⟨hentry, hdrawn⟩ := hpath ⟨"out/."⟩
  have hjoin : Path.join ⟨"out/."⟩ ⟨fileName climbing.algorithm⟩ = ⟨"out/./hist_.._x.png"⟩ := by decide +kernel
  obtain ⟨drawing, hchart⟩ : ∃ drawing, ofHistogram climbing ⟨[1]⟩ .default = .ok drawing := ⟨_, rfl⟩
  obtain ⟨written, hwrite⟩ : ∃ written, chartFolder.write ⟨"out/./hist_.._x.png"⟩ (.chart drawing) = .ok written :=
    ⟨_, rfl⟩
  have hresult : (drawHistogram chartFolder .sound climbing ⟨[1]⟩ .default ⟨"out/."⟩).result =
      .ok ⟨"out/./hist_.._x.png"⟩ := by
    rw [drawHistogram, hjoin, (draws_sound hchart hwrite).drawIfAny_eq]
  refine ⟨hresult, ?_⟩
  rw [hdrawn _ _ _ _ _ hresult, hentry.components_eq]
  decide +kernel

end Occupancy.Chart
