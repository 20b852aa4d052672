import Occupancy.Proofs.FileSystem.Writing

/-! File systems as there are. What is listed in a directory is what is there under its names, each name once. Making a
directory and writing a file, either in a directory that is there, lead from such file systems to such file systems. -/

namespace Occupancy.FileSystem

variable {fs changed : FileSystem} {dir : Path} {d l : Location} {name : String} {entry : Entry} {content : Content}

theorem IsWorld.mem_children_iff (h : fs.IsWorld) :
    (name, entry) ∈ fs.children d ↔ fs.lookup (name :: d) = some entry := by
  constructor
  · exact fun hmem => (h.of_mem_children hmem).1
  · intro hlookup
    rw [children, List.mem_filterMap]
    exact ⟨_, mem_entries_of_lookup hlookup, if_pos rfl⟩

/-- The entries of a directory have names of their own. -/
theorem IsWorld.nodup_children (h : fs.IsWorld) (d : Location) : ((fs.children d).map Prod.fst).Nodup := by
  have hentries := h.nodup
  rw [List.Nodup, List.pairwise_map] at hentries ⊢
  refine List.Pairwise.filterMap _ ?_ hentries
  rintro ⟨place, entry⟩ ⟨place', entry'⟩ hne ⟨name, _⟩ hname ⟨name', _⟩ hname' rfl
  cases place with
  | nil => cases hname
  | cons first parent =>
      cases place' with
      | nil => cases hname'
      | cons first' parent' =>
          simp only [Option.ite_none_right_eq_some, Option.some.injEq, Prod.mk.injEq] at hname hname'
          obtain ⟨hparent, hfirst, -⟩ := hname
          obtain ⟨hparent', hfirst', -⟩ := hname'
          exact hne (by rw [hparent, hparent', hfirst, hfirst'])

/-- The directories on the way to a directory that is there have names. -/
theorem IsWorld.isName_of_directory (h : fs.IsWorld) (hdir : fs.lookup d = some .directory) :
    ∀ name ∈ d, Path.IsName name := by
  cases d with
  | nil => exact List.forall_mem_nil _
  | cons first parent => exact h.names _ (mem_entries_of_lookup hdir)

/-- An entry is put into a directory, and it is in the place of no directory unless it is one itself. -/
theorem IsWorld.insert (h : fs.IsWorld) (hdir : fs.lookup d = some .directory) (hname : Path.IsName name)
    (hkind : fs.lookup (name :: d) = some .directory → entry = .directory) :
    (fs.insert (name :: d) entry).IsWorld := by
  have hmem {pair : Location × Entry} (hpair : pair ∈ (fs.insert (name :: d) entry).entries) :
      pair = (name :: d, entry) ∨ pair ∈ fs.entries ∧ pair.1 ≠ name :: d := by
    rcases List.mem_cons.mp hpair with rfl | hold
    · exact Or.inl rfl
    · obtain ⟨hold, hne⟩ := List.mem_filter.mp hold
      exact Or.inr ⟨hold, of_decide_eq_true hne⟩
  have hkept {l : Location} (hl : fs.lookup l = some .directory) :
      (fs.insert (name :: d) entry).lookup l = some .directory := by
    by_cases hsame : l = name :: d
    · subst hsame
      rw [lookup_insert_self fs entry (List.cons_ne_nil _ _), hkind hl]
    · rw [lookup_insert_ne fs entry hsame, hl]
  refine ⟨?_, ?_, ?_⟩
  · intro pair hpair
    rcases hmem hpair with rfl | ⟨hold, -⟩
    · exact hkept hdir
    · exact hkept (h.tree pair hold)
  · have hfresh : name :: d ∉ (fs.erase (name :: d)).entries.map Prod.fst := by
      rintro hplace
      obtain ⟨pair, hpair, hsame⟩ := List.mem_map.mp hplace
      exact of_decide_eq_true (List.mem_filter.mp hpair).2 hsame
    exact List.nodup_cons.mpr ⟨hfresh, h.nodup.sublist (List.filter_sublist.map _)⟩
  · intro pair hpair
    rcases hmem hpair with rfl | ⟨hold, -⟩
    · exact List.forall_mem_cons.mpr ⟨hname, h.isName_of_directory hdir⟩
    · exact h.names pair hold

/-- Writing a file puts it in its place, unless a device is there. -/
theorem Unlinked.eq_or_insert_of_write (h : Unlinked dir d fs) (hname : Path.IsName name)
    (hwrite : fs.write (dir.join ⟨name⟩) content = .ok changed) :
    changed = fs ∨ IsLeaf (fs.lookup (name :: d)) ∧ changed = fs.insert (name :: d) (.file content) := by
  obtain ⟨hfits, hwritten⟩ := h.written hname hwrite
  have hleaf := hwritten.change.leaf
  rw [write, h.resolve_join hname hfits, placeAt] at hwrite
  cases hlookup : fs.lookup (name :: d) with
  | none =>
      rw [hlookup] at hwrite
      cases hwrite
      exact Or.inr ⟨trivial, rfl⟩
  | some old =>
      rw [hlookup] at hwrite hleaf
      cases old with
      | file old =>
          cases hwrite
          exact Or.inr ⟨trivial, rfl⟩
      | device =>
          cases hwrite
          exact Or.inl rfl
      | directory => exact hleaf.elim
      | link target => exact hleaf.elim

theorem IsWorld.write (h : fs.IsWorld) (hunlinked : Unlinked dir d fs) (hdir : fs.lookup d = some .directory)
    (hname : Path.IsName name) (hwrite : fs.write (dir.join ⟨name⟩) content = .ok changed) : changed.IsWorld := by
  rcases hunlinked.eq_or_insert_of_write hname hwrite with rfl | ⟨hleaf, rfl⟩
  · exact h
  · refine h.insert hdir hname ?_
    intro hdirectory
    rw [hdirectory] at hleaf
    exact hleaf.elim

end Occupancy.FileSystem
