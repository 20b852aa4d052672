import Occupancy.Proofs.Path.Order
import Occupancy.Proofs.Run.Discovery

/-! Discovery is exact. What is found in a directory are the files directly in it whose names end in `.meta.json`, each once
and in the order of their names, which is also the order of their paths. Neither the order in which a directory lists its
entries nor any entry that is no such file has a say in it. -/

namespace Occupancy.Run

open FileSystem

variable {files changed : FileSystem} {dir : Path} {r r' : Location} {name : String} {names : List String}
  {entries listed : List (String × Entry)} {paths : List Path} {o : Except RunError (List Path)}

/-! ### Descriptors in a directory -/

/-- A file directly in the directory at `r` whose name ends as those of descriptors do. -/
def IsDescriptor (files : FileSystem) (r : Location) (name : String) : Prop :=
  (∃ stem, name = stem ++ ".meta.json") ∧ ∃ content, files.lookup (name :: r) = some (.file content)

theorem isDescriptorName_iff : isDescriptorName name = true ↔ ∃ stem, name = stem ++ ".meta.json" := by
  rw [isDescriptorName, List.isSuffixOf_iff_suffix]
  constructor
  · rintro ⟨front, hfront⟩
    refine ⟨String.ofList front, String.toList_inj.mp ?_⟩
    rw [String.toList_append, String.toList_ofList]
    exact hfront.symm
  · rintro ⟨stem, rfl⟩
    rw [String.toList_append]
    exact List.suffix_append _ _

theorem mem_descriptorNames_children (hworld : files.IsWorld) :
    name ∈ descriptorNames (files.children r) ↔ IsDescriptor files r name := by
  rw [mem_descriptorNames, IsDescriptor, ← isDescriptorName_iff]
  simp only [hworld.mem_children_iff, exists_and_right]
  exact and_comm

theorem IsDescriptor.isName (h : IsDescriptor files r name) (hworld : files.IsWorld) : Path.IsName name := by
  obtain ⟨-, content, hlookup⟩ := h
  exact hworld.names _ (mem_entries_of_lookup hlookup) name List.mem_cons_self

/-! ### Every outcome -/

/-- What discovery in a directory gives, and when it gives it. -/
inductive Discovery (files : FileSystem) (dir : Path) : Except RunError (List Path) → Prop
  | missing (hdir : ∀ r, files.resolve true dir ≠ .ok (.occupied r .directory)) :
      Discovery files dir (.error (.missingDirectory dir))
  | empty {r : Location} (hdir : files.resolve true dir = .ok (.occupied r .directory))
      (hnone : ∀ name, ¬IsDescriptor files r name) : Discovery files dir (.error (.noDescriptors dir))
  | found {r : Location} {names : List String} (hdir : files.resolve true dir = .ok (.occupied r .directory))
      (hsome : names ≠ []) (hnames : ∀ name, name ∈ names ↔ IsDescriptor files r name)
      (hsorted : names.Pairwise (· < ·)) : Discovery files dir (.ok (names.map fun name => dir.join ⟨name⟩))

theorem discovery_discover (hworld : files.IsWorld) (dir : Path) : Discovery files dir (discover files dir) := by
  by_cases hdir : ∃ r, files.resolve true dir = .ok (.occupied r .directory)
  · obtain ⟨r, hdir⟩ := hdir
    rw [discover_of_directory hdir]
    by_cases hnil : descriptorNames (files.children r) = []
    · rw [if_pos hnil]
      apply Discovery.empty hdir
      intro name hname
      rw [← mem_descriptorNames_children hworld, hnil] at hname
      cases hname
    · rw [if_neg hnil]
      apply Discovery.found hdir hnil
      · exact fun name => mem_descriptorNames_children hworld
      · exact sorted_descriptorNames (hworld.nodup_children r)
  · rw [discover_of_missing (not_exists.mp hdir)]
    exact .missing (not_exists.mp hdir)

theorem Discovery.discover_eq (h : Discovery files dir o) (hworld : files.IsWorld) : discover files dir = o := by
  cases h with
  | missing hdir => exact discover_of_missing hdir
  | @empty r hdir hnone =>
      rw [discover_of_directory hdir, if_pos]
      rw [List.eq_nil_iff_forall_not_mem]
      exact fun name hname => hnone name ((mem_descriptorNames_children hworld).mp hname)
  | @found r names hdir hsome hnames hsorted =>
      have heq : descriptorNames (files.children r) = names := by
        apply eq_of_sorted (sorted_descriptorNames (hworld.nodup_children r)) hsorted
        exact fun name => (mem_descriptorNames_children hworld).trans (hnames name).symm
      rw [discover_of_directory hdir, heq, if_neg hsome]

/-! ### Listings in any order -/

/-- The paths of the descriptors among listed entries, in the order in which they are listed. -/
def pathsAmong (dir : Path) (listed : List (String × Entry)) : List Path :=
  (listed.filter fun (name, entry) => isDescriptorName name && isFile entry).map fun (name, _) => dir.join ⟨name⟩

/-- What is found is a sorted listing. -/
theorem map_descriptorNames_perm (hlisted : listed.Perm entries) (dir : Path) :
    ((descriptorNames entries).map fun name => dir.join ⟨name⟩).Perm (pathsAmong dir listed) := by
  have hsorted := (List.mergeSort_perm
    ((entries.filter fun (name, entry) => isDescriptorName name && isFile entry).map (·.1)) fun a b => decide (a ≤ b)).map
      fun name => dir.join ⟨name⟩
  rw [List.map_map] at hsorted
  exact hsorted.trans ((hlisted.filter _).map _).symm

theorem before_map_descriptorNames (hworld : files.IsWorld) (dir : Path) (r : Location) :
    ((descriptorNames (files.children r)).map fun name => dir.join ⟨name⟩).Pairwise Path.Before := by
  rw [List.pairwise_map]
  refine (sorted_descriptorNames (hworld.nodup_children r)).imp_of_mem ?_
  intro name other hname hother hlt
  rw [mem_descriptorNames_children hworld] at hname hother
  exact Path.join_before_join dir (hname.isName hworld) (hother.isName hworld) hlt

/-- However a directory lists its entries, the paths that are found are those of the descriptors in the order of paths. -/
theorem discover_eq_ok_iff_of_perm (hworld : files.IsWorld)
    (hdir : files.resolve true dir = .ok (.occupied r .directory)) (hlisted : listed.Perm (files.children r)) :
    discover files dir = .ok paths ↔
      paths ≠ [] ∧ paths.Perm (pathsAmong dir listed) ∧ paths.Pairwise Path.Before := by
  have hperm := map_descriptorNames_perm hlisted dir
  have hbefore := before_map_descriptorNames hworld dir r
  rw [discover_of_directory hdir]
  constructor
  · intro h
    split at h
    · cases h
    · rename_i hsome
      cases h
      exact ⟨fun hnil => hsome (List.map_eq_nil_iff.mp hnil), hperm, hbefore⟩
  · rintro ⟨hsome, hpaths, hsorted⟩
    have heq : (descriptorNames (files.children r)).map (fun name => dir.join ⟨name⟩) = paths := by
      apply (hperm.trans hpaths.symm).eq_of_pairwise _ hbefore hsorted
      intro p q _ _ hpq hqp
      exact absurd hqp hpq.asymm
    rw [heq, if_neg]
    rintro hnil
    rw [hnil] at heq
    exact hsome heq.symm

/-- **Discovery is exact.** A directory that is not there is missing; one without descriptors is refused; and from any other
the paths of its descriptors come, each once and in the strict order of their names. In whatever order the directory lists
its entries, these are the paths of the descriptors among them in the order of paths. Where two directories have descriptors
of the same names, the same is found in both. -/
theorem discover_exact (hworld : files.IsWorld) (dir : Path) :
    (∀ o, discover files dir = o ↔ Discovery files dir o) ∧
    (∀ r, files.resolve true dir = .ok (.occupied r .directory) →
      ∀ listed, listed.Perm (files.children r) → ∀ paths, discover files dir = .ok paths ↔
        paths ≠ [] ∧ paths.Perm (pathsAmong dir listed) ∧ paths.Pairwise Path.Before) ∧
    ∀ changed r r', changed.IsWorld → files.resolve true dir = .ok (.occupied r .directory) →
      changed.resolve true dir = .ok (.occupied r' .directory) →
        (∀ name, IsDescriptor changed r' name ↔ IsDescriptor files r name) →
          discover changed dir = discover files dir := by
  refine ⟨fun o => ⟨fun h => ?_, fun h => h.discover_eq hworld⟩, ?_, ?_⟩
  · rw [← h]
    exact discovery_discover hworld dir
  · exact fun r hdir listed hlisted paths => discover_eq_ok_iff_of_perm hworld hdir hlisted
  · intro changed r r' hchanged hdir hdir' hsame
    have hnames : descriptorNames (changed.children r') = descriptorNames (files.children r) := by
      apply eq_of_sorted (sorted_descriptorNames (hchanged.nodup_children r'))
        (sorted_descriptorNames (hworld.nodup_children r))
      intro name
      rw [mem_descriptorNames_children hchanged, mem_descriptorNames_children hworld]
      exact hsame name
    rw [discover_of_directory hdir', discover_of_directory hdir, hnames]

/-- Results in which two descriptors stand among entries that only look like some. -/
def cluttered : FileSystem where
  entries :=
    [(["r"], .directory),
     (["b.meta.json.txt", "r"], .file (.bytes [])),
     (["b.meta.json", "r"], .file (.bytes [])),
     (["a.meta.json", "r"], .directory),
     (["x.meta.json", "a.meta.json", "r"], .file (.bytes [])),
     (["l.meta.json", "r"], .link "b.meta.json"),
     ([".meta.json", "r"], .file (.bytes []))]
  workingDirectory := []

theorem isWorld_cluttered : cluttered.IsWorld where
  tree := by
    refine List.forall_mem_cons.mpr ⟨rfl, List.forall_mem_cons.mpr ⟨rfl, List.forall_mem_cons.mpr ⟨rfl,
      List.forall_mem_cons.mpr ⟨rfl, List.forall_mem_cons.mpr ⟨rfl, List.forall_mem_cons.mpr ⟨rfl,
        List.forall_mem_cons.mpr ⟨rfl, ?_⟩⟩⟩⟩⟩⟩⟩
    nofun
  nodup := by decide
  names := by decide

/-- Neither the order of the listing nor a further file in a directory with the name of a descriptor matters. -/
theorem discover_exact_cluttered :
    discover cluttered ⟨"r"⟩ = .ok [⟨"r/.meta.json"⟩, ⟨"r/b.meta.json"⟩] ∧
      discover (cluttered.insert ["y.meta.json", "a.meta.json", "r"] (.file (.bytes []))) ⟨"r"⟩ =
        discover cluttered ⟨"r"⟩ := by
  obtain ⟨-, hlisting, hclutter⟩ := discover_exact isWorld_cluttered ⟨"r"⟩
  constructor
  · apply (hlisting ["r"] rfl (cluttered.children ["r"]).reverse (List.reverse_perm _) _).mpr
    refine ⟨by decide, by decide +kernel, ?_⟩
    rw [List.pairwise_pair]
    have hbefore : (Path.join ⟨"r"⟩ ⟨".meta.json"⟩).Before (Path.join ⟨"r"⟩ ⟨"b.meta.json"⟩) :=
      Path.join_before_join ⟨"r"⟩ (by decide) (by decide) (by decide)
    exact hbefore
  · apply hclutter _ ["r"] ["r"] _ rfl rfl
    · intro name
      rw [IsDescriptor, lookup_insert_ne _ _ (by simp), IsDescriptor]
    · apply isWorld_cluttered.insert
      · rfl
      · decide
      · nofun

end Occupancy.Run
