import Occupancy.Proofs.FileSystem.World
import Occupancy.Proofs.Text.Utf8
import Occupancy.Run.Discovery

/-! What descriptors are found. They are the files of a descriptor's name in the directory of the results, in the order
of their names, and there is one at least. -/

namespace Occupancy.Run

open FileSystem

variable {files : FileSystem} {dir path : Path} {r : Location} {paths : List Path} {name : String}
  {names : List String} {entries : List (String × Entry)} {e : RunError}

/-! ### Names -/

theorem mem_descriptorNames :
    name ∈ descriptorNames entries ↔
      ∃ content, (name, Entry.file content) ∈ entries ∧ isDescriptorName name = true := by
  rw [descriptorNames, List.mem_mergeSort, List.mem_map]
  constructor
  · rintro ⟨⟨name, entry⟩, hentry, rfl⟩
    obtain ⟨hmem, hkind⟩ := List.mem_filter.mp hentry
    rw [Bool.and_eq_true] at hkind
    cases entry with
    | file content => exact ⟨content, hmem, hkind.1⟩
    | _ => cases hkind.2
  · rintro ⟨content, hmem, hname⟩
    exact ⟨(name, .file content), List.mem_filter.mpr ⟨hmem, Bool.and_eq_true_iff.mpr ⟨hname, rfl⟩⟩, rfl⟩

theorem pairwise_descriptorNames (entries : List (String × Entry)) : (descriptorNames entries).Pairwise (· ≤ ·) := by
  rw [descriptorNames]
  refine (List.pairwise_mergeSort ?_ ?_ _).imp of_decide_eq_true
  · intro a b c hab hbc
    exact decide_eq_true (String.le_trans (of_decide_eq_true hab) (of_decide_eq_true hbc))
  · intro a b
    rw [Bool.or_eq_true, decide_eq_true_eq, decide_eq_true_eq]
    exact String.le_total a b

/-- Names of descriptors are listed once. -/
theorem nodup_descriptorNames (h : (entries.map Prod.fst).Nodup) : (descriptorNames entries).Nodup := by
  apply (List.mergeSort_perm _ _).nodup_iff.mpr
  exact h.sublist (List.filter_sublist.map _)

/-- Names that are listed once are in strict order when they are sorted. -/
theorem sorted_descriptorNames (hentries : (entries.map Prod.fst).Nodup) :
    (descriptorNames entries).Pairwise (· < ·) := by
  apply ((pairwise_descriptorNames entries).and (nodup_descriptorNames hentries)).imp
  rintro name other ⟨hle, hne⟩
  exact Std.lt_iff_le_and_not_ge.mpr ⟨hle, fun hge => hne (String.le_antisymm hle hge)⟩

/-- Names in strict order are determined by which names they are. -/
theorem eq_of_sorted {others : List String} (hnames : names.Pairwise (· < ·)) (hothers : others.Pairwise (· < ·))
    (hmem : ∀ name, name ∈ names ↔ name ∈ others) : names = others := by
  have hnodup (l : List String) (hl : l.Pairwise (· < ·)) : l.Nodup := by
    apply hl.imp
    rintro name _ hlt rfl
    exact String.lt_irrefl name hlt
  have hperm : names.Perm others := (List.perm_ext_iff_of_nodup (hnodup names hnames) (hnodup others hothers)).mpr hmem
  apply hperm.eq_of_pairwise _ hnames hothers
  intro a b _ _ hab hba
  exact absurd hba (String.lt_asymm hab)

/-- Names that are in order are not sorted again. Sorting is by well-founded recursion, which does not evaluate. -/
theorem descriptorNames_eq
    (hnames : (entries.filter fun (name, entry) => isDescriptorName name && isFile entry).map (·.1) = names)
    (hsorted : names.Pairwise (· ≤ ·)) : descriptorNames entries = names := by
  rw [descriptorNames, hnames]
  exact List.mergeSort_of_pairwise (hsorted.imp decide_eq_true)

/-- The name of a descriptor is at least as long as its ending. -/
theorem le_utf8ByteSize_of_isDescriptorName (h : isDescriptorName name = true) :
    descriptorEnding.utf8ByteSize ≤ name.utf8ByteSize := by
  obtain ⟨front, hfront⟩ := List.isSuffixOf_iff_suffix.mp h
  rw [← Text.length_utf8, ← Text.length_utf8 name, ← hfront, Text.utf8_append, List.length_append]
  exact Nat.le_add_left _ _

/-! ### Discovery -/

theorem discover_of_missing (hdir : ∀ r, files.resolve true dir ≠ .ok (.occupied r .directory)) :
    discover files dir = .error (.missingDirectory dir) := by
  have hfalse : files.isDirectory dir = false := by
    rw [Bool.eq_false_iff, ne_eq, isDirectory_iff, not_exists]
    exact hdir
  rw [discover, hfalse]
  rfl

/-- The entries of a directory that is there can always be listed. -/
theorem discover_of_directory (hdir : files.resolve true dir = .ok (.occupied r .directory)) :
    discover files dir =
      if descriptorNames (files.children r) = [] then .error (.noDescriptors dir)
      else .ok ((descriptorNames (files.children r)).map fun name => dir.join ⟨name⟩) := by
  have htrue : files.isDirectory dir = true := isDirectory_iff.mpr ⟨r, hdir⟩
  have hlist : files.listDirectory dir = .ok (files.children r) := by rw [listDirectory, hdir]
  rw [discover, htrue, hlist]
  simp only [Bool.not_true, Bool.false_eq_true, if_false]
  cases descriptorNames (files.children r) with
  | nil => rw [if_pos rfl]
  | cons name names => rw [if_neg (List.cons_ne_nil name names)]

/-- The paths of the descriptors are found in a directory that has any. -/
theorem discover_eq_ok_iff :
    discover files dir = .ok paths ↔
      ∃ r, files.resolve true dir = .ok (.occupied r .directory) ∧ descriptorNames (files.children r) ≠ [] ∧
        paths = (descriptorNames (files.children r)).map fun name => dir.join ⟨name⟩ := by
  by_cases hdir : ∃ r, files.resolve true dir = .ok (.occupied r .directory)
  · obtain ⟨r, hr⟩ := hdir
    rw [discover_of_directory hr, hr]
    constructor
    · intro h
      split at h
      · cases h
      · rename_i hnames
        cases h
        exact ⟨r, rfl, hnames, rfl⟩
    · rintro ⟨_, hsame, hnames, rfl⟩
      cases hsame
      rw [if_neg hnames]
  · rw [discover_of_missing (not_exists.mp hdir)]
    refine ⟨nofun, ?_⟩
    rintro ⟨r, hr, -⟩
    exact absurd ⟨r, hr⟩ hdir

theorem resolve_of_discover (h : discover files dir = .ok paths) :
    ∃ r, files.resolve true dir = .ok (.occupied r .directory) := by
  obtain ⟨r, hr, -⟩ := discover_eq_ok_iff.mp h
  exact ⟨r, hr⟩

/-- The descriptors are files in the directory of the results. -/
theorem exists_name_of_discover (hdir : files.resolve true dir = .ok (.occupied r .directory))
    (h : discover files dir = .ok paths) (hpath : path ∈ paths) :
    ∃ name content, path = dir.join ⟨name⟩ ∧ (name, .file content) ∈ files.children r ∧
      isDescriptorName name = true := by
  obtain ⟨_, hsame, -, rfl⟩ := discover_eq_ok_iff.mp h
  rw [hdir] at hsame
  cases hsame
  obtain ⟨name, hname, rfl⟩ := List.mem_map.mp hpath
  obtain ⟨content, hmem, hdescriptor⟩ := mem_descriptorNames.mp hname
  exact ⟨name, content, rfl, hmem, hdescriptor⟩

theorem ne_nil_of_discover (h : discover files dir = .ok paths) : paths ≠ [] := by
  obtain ⟨r, -, hnames, rfl⟩ := discover_eq_ok_iff.mp h
  exact fun hnil => hnames (List.map_eq_nil_iff.mp hnil)

/-- The descriptors come in the order of their names. -/
theorem exists_sorted_of_discover (h : discover files dir = .ok paths) :
    ∃ names : List String, paths = names.map (fun name => dir.join ⟨name⟩) ∧ names.Pairwise (· ≤ ·) := by
  obtain ⟨r, -, -, rfl⟩ := discover_eq_ok_iff.mp h
  exact ⟨_, rfl, pairwise_descriptorNames _⟩

/-- Two directories have the same descriptors if the same entries have the name of one. -/
theorem descriptorNames_congr {others : List (String × Entry)} (hentries : (entries.map Prod.fst).Nodup)
    (hothers : (others.map Prod.fst).Nodup)
    (h : ∀ name content, isDescriptorName name = true →
      ((name, Entry.file content) ∈ others ↔ (name, Entry.file content) ∈ entries)) :
    descriptorNames others = descriptorNames entries := by
  apply eq_of_sorted (sorted_descriptorNames hothers) (sorted_descriptorNames hentries)
  intro name
  rw [mem_descriptorNames, mem_descriptorNames]
  exact exists_congr fun content => and_congr_left fun hname => h name content hname

/-- In two file systems that have the same entries where descriptors can be, the same are found. -/
theorem discover_congr {changed : FileSystem} (hfiles : files.IsWorld) (hchanged : changed.IsWorld)
    (hdir : files.resolve true dir = .ok (.occupied r .directory))
    (hresults : changed.resolve true dir = .ok (.occupied r .directory))
    (h : ∀ name, isDescriptorName name = true → changed.lookup (name :: r) = files.lookup (name :: r)) :
    discover changed dir = discover files dir := by
  have hnames : descriptorNames (changed.children r) = descriptorNames (files.children r) := by
    apply descriptorNames_congr (hfiles.nodup_children r) (hchanged.nodup_children r)
    intro name content hname
    rw [hfiles.mem_children_iff, hchanged.mem_children_iff, h name hname]
  rw [discover_of_directory hresults, discover_of_directory hdir, hnames]

/-- Why no descriptors are found: neither loading nor drawing has to do with it. -/
theorem discover_eq_error (h : discover files dir = .error e) :
    e = .missingDirectory dir ∨ e = .noDescriptors dir ∨ ∃ cause, e = .inaccessible cause := by
  rw [discover] at h
  split at h
  · cases h
    exact Or.inl rfl
  · split at h
    · cases h
      exact Or.inr (Or.inr ⟨_, rfl⟩)
    · split at h
      · cases h
        exact Or.inr (Or.inl rfl)
      · cases h

theorem ne_loading_of_discover (h : discover files dir = .error e) (cause : LoadError) : e ≠ .loading cause := by
  rcases discover_eq_error h with rfl | rfl | ⟨_, rfl⟩ <;> exact nofun

end Occupancy.Run
