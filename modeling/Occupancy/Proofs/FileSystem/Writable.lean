import Occupancy.Proofs.FileSystem.Writing

/-! Where files can be written. A file can be written at a path that leads to a free name, a file or a device, and what
is written does not matter. Files written into a directory leave it as it is but for their own entries, they take no
room from other files, and to write the same files once more changes nothing. -/

namespace Occupancy

/-- A place that a file can be written to. -/
def Place.TakesFile : Place → Prop
  | .free _ | .occupied _ (.file _) | .occupied _ .device => True
  | _ => False

namespace FileSystem

variable {fs changed again : FileSystem} {dir p : Path} {d l : Location} {name other : String} {content : Content}
  {writes : List (String × Content)}

/-- The path leads to a place that a file can be written to. -/
def CanWrite (fs : FileSystem) (p : Path) : Prop := ∃ place, fs.resolve true p = .ok place ∧ place.TakesFile

theorem exists_write_iff (content : Content) : (∃ changed, fs.write p content = .ok changed) ↔ fs.CanWrite p := by
  rw [write, CanWrite]
  cases fs.resolve true p with
  | error e => exact ⟨nofun, nofun⟩
  | ok place =>
      constructor
      · rintro ⟨changed, hwrite⟩
        refine ⟨place, rfl, ?_⟩
        cases place with
        | free l => trivial
        | occupied l entry =>
            cases entry with
            | file old => trivial
            | device => trivial
            | directory => cases hwrite
            | link target => cases hwrite
      · rintro ⟨_, hplace, htakes⟩
        cases hplace
        cases place with
        | free l => exact ⟨_, rfl⟩
        | occupied l entry =>
            cases entry with
            | file old => exact ⟨_, rfl⟩
            | device => exact ⟨_, rfl⟩
            | directory => exact htakes.elim
            | link target => exact htakes.elim

theorem canWrite_of_write (h : fs.write p content = .ok changed) : fs.CanWrite p :=
  (exists_write_iff content).mp ⟨changed, h⟩

theorem takesFile_placeAt (fs : FileSystem) (l : Location) : (fs.placeAt l).TakesFile ↔ IsLeaf (fs.lookup l) := by
  rw [placeAt]
  cases fs.lookup l with
  | none => exact Iff.rfl
  | some entry => cases entry <;> exact Iff.rfl

/-! ### Files of one directory -/

/-- In a directory without links there is room for a file unless a directory is in its place. -/
theorem Unlinked.canWrite_join (h : Unlinked dir d fs) (hname : Path.IsName name) :
    fs.CanWrite (dir.join ⟨name⟩) ↔ Fits dir name ∧ IsLeaf (fs.lookup (name :: d)) := by
  rw [← takesFile_placeAt]
  constructor
  · rintro ⟨place, hresolve, htakes⟩
    have hfits := h.fits hname hresolve
    rw [h.resolve_join hname hfits] at hresolve
    cases hresolve
    exact ⟨hfits, htakes⟩
  · rintro ⟨hfits, htakes⟩
    exact ⟨_, h.resolve_join hname hfits, htakes⟩

/-- The same files can be written into the directory. -/
def SameRoom (dir : Path) (fs changed : FileSystem) : Prop :=
  ∀ name, Path.IsName name → (changed.CanWrite (dir.join ⟨name⟩) ↔ fs.CanWrite (dir.join ⟨name⟩))

theorem SameRoom.refl (dir : Path) (fs : FileSystem) : SameRoom dir fs fs := fun _ _ => Iff.rfl

theorem SameRoom.trans (h : SameRoom dir fs changed) (hagain : SameRoom dir changed again) : SameRoom dir fs again :=
  fun name hname => (hagain name hname).trans (h name hname)

/-- A file that is written takes no room from others. -/
theorem Unlinked.sameRoom (h : Unlinked dir d fs) (hwritten : Written name d content fs changed) :
    SameRoom dir fs changed := by
  intro other hother
  rw [h.canWrite_join hother, (h.of_written hwritten).canWrite_join hother]
  refine and_congr_right fun _ => ?_
  by_cases hsame : other = name
  · subst hsame
    exact iff_of_true (hwritten.entry ▸ isLeaf_stored _ _) hwritten.change.leaf
  · rw [hwritten.change.elsewhere _ fun heq => hsame (List.cons.inj heq).1]

/-! ### Several files -/

theorem Unlinked.writeAll_sameRoom (h : Unlinked dir d fs) (hnames : ∀ w ∈ writes, Path.IsName w.1)
    (hwrites : fs.writeAll dir writes = .ok changed) : SameRoom dir fs changed := by
  induction writes generalizing fs with
  | nil =>
      cases hwrites
      exact .refl dir _
  | cons w writes ih =>
      obtain ⟨between, hwrite, hwrites⟩ := exists_write_of_writeAll hwrites
      obtain ⟨-, hwritten⟩ := h.written (hnames w List.mem_cons_self) hwrite
      exact (h.sameRoom hwritten).trans
        (ih (h.of_written hwritten) (fun w hw => hnames w (List.mem_cons_of_mem _ hw)) hwrites)

/-- Files written into a directory change nothing but their own entries. -/
theorem Unlinked.writeAll_elsewhere (h : Unlinked dir d fs) (hnames : ∀ w ∈ writes, Path.IsName w.1)
    (hwrites : fs.writeAll dir writes = .ok changed) :
    changed.workingDirectory = fs.workingDirectory ∧
      ∀ l, (∀ name ∈ writes.map Prod.fst, l ≠ name :: d) → changed.lookup l = fs.lookup l := by
  induction writes generalizing fs with
  | nil =>
      cases hwrites
      exact ⟨rfl, fun _ _ => rfl⟩
  | cons w writes ih =>
      obtain ⟨between, hwrite, hwrites⟩ := exists_write_of_writeAll hwrites
      obtain ⟨-, hwritten⟩ := h.written (hnames w List.mem_cons_self) hwrite
      obtain ⟨hdir, helsewhere⟩ :=
        ih (h.of_written hwritten) (fun w hw => hnames w (List.mem_cons_of_mem _ hw)) hwrites
      refine ⟨hdir.trans hwritten.change.workingDirectory, ?_⟩
      intro l hl
      rw [List.map_cons, List.forall_mem_cons] at hl
      rw [helsewhere l hl.2, hwritten.change.elsewhere l hl.1]

theorem storedLast_storedLast (old : Option Entry) (last : Option Content) :
    storedLast (storedLast old last) last = storedLast old last := by
  cases last with
  | none => rfl
  | some content => exact stored_stored old content content

/-- Once files have been written, writing the same files again changes nothing. -/
theorem Unlinked.lookup_writeAll_again (h : Unlinked dir d fs) (hnames : ∀ w ∈ writes, Path.IsName w.1)
    (hwrites : fs.writeAll dir writes = .ok changed) (hagain : changed.writeAll dir writes = .ok again) (l : Location) :
    again.lookup l = changed.lookup l := by
  obtain ⟨hchanged, -, hfirst⟩ := h.writeAll hnames hwrites
  obtain ⟨-, -, hsecond⟩ := hchanged.writeAll hnames hagain
  by_cases hl : ∃ name ∈ writes.map Prod.fst, l = name :: d
  · obtain ⟨name, -, rfl⟩ := hl
    rw [hsecond, hfirst, storedLast_storedLast]
  · exact (hchanged.writeAll_elsewhere hnames hagain).2 l fun name hname heq => hl ⟨name, hname, heq⟩

/-- What is at a location after files have been written depends on what was written to it last. -/
theorem Unlinked.lookup_writeAll_congr (h : Unlinked dir d fs) {others : List (String × Content)}
    (hnames : ∀ w ∈ writes, Path.IsName w.1) (hothers : ∀ w ∈ others, Path.IsName w.1)
    (hwrites : fs.writeAll dir writes = .ok changed) (hwrote : fs.writeAll dir others = .ok again)
    (hlast : ∀ name, l = name :: d → lastWrite others name = lastWrite writes name) :
    again.lookup l = changed.lookup l := by
  by_cases hl : ∃ name, l = name :: d
  · obtain ⟨name, rfl⟩ := hl
    rw [(h.writeAll hothers hwrote).2.2, (h.writeAll hnames hwrites).2.2, hlast name rfl]
  · rw [(h.writeAll_elsewhere hothers hwrote).2 l fun name _ heq => hl ⟨name, heq⟩,
      (h.writeAll_elsewhere hnames hwrites).2 l fun name _ heq => hl ⟨name, heq⟩]

/-- What is opened at the name that was written to last is what was stored there. -/
theorem Unlinked.openEntry_writeAll_concat (h : Unlinked dir d fs)
    (hnames : ∀ w ∈ writes ++ [(name, content)], Path.IsName w.1)
    (hwrites : fs.writeAll dir (writes ++ [(name, content)]) = .ok changed) {entry : Entry} :
    changed.openEntry (dir.join ⟨name⟩) = .ok entry ↔ stored (fs.lookup (name :: d)) content = some entry := by
  have hmem : (name, content) ∈ writes ++ [(name, content)] := List.mem_append_right _ List.mem_cons_self
  obtain ⟨hchanged, hfits, hlookup⟩ := h.writeAll hnames hwrites
  have hlast : lastWrite (writes ++ [(name, content)]) name = some content := by
    rw [lastWrite_append, lastWrite_cons, if_pos rfl]
    rfl
  rw [hchanged.openEntry_join (hnames _ hmem) (hfits _ hmem), hlookup, hlast, storedLast]

end FileSystem

end Occupancy
