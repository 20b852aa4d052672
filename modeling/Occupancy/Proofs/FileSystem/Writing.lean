import Occupancy.FileSystem.Read
import Occupancy.FileSystem.Write
import Occupancy.Proofs.FileSystem.Walk

/-! What making a directory and writing a file change. Either changes at most the entry at one location, and only where
no walk goes on: a new directory is where nothing was, and a file is written where nothing or a file was. The entries
of a directory without links are then written and read each at its own location. -/

namespace Occupancy.FileSystem

variable {fs changed made : FileSystem} {followLast : Bool} {location l d : Location} {steps : List Path.Step}

theorem LeafChange.insert (entry : Entry) (h : IsLeaf (fs.lookup location)) :
    LeafChange location fs (fs.insert location entry) :=
  ⟨rfl, h, fun _ hne => lookup_insert_ne fs entry hne⟩

theorem LeafChange.refl (h : IsLeaf (fs.lookup location)) : LeafChange location fs fs := ⟨rfl, h, fun _ _ => rfl⟩

/-! ### Places -/

/-- A place as it is in the table of entries. Walks take the directory that they start from for granted. -/
def Holds (fs : FileSystem) : Place → Prop
  | .occupied l entry => entry = .directory ∨ fs.lookup l = some entry
  | .free l => fs.lookup l = none

theorem holds_placeAt (fs : FileSystem) (l : Location) : fs.Holds (fs.placeAt l) := by
  rw [placeAt]
  cases hlookup : fs.lookup l with
  | none => exact hlookup
  | some entry => exact Or.inr hlookup

theorem holds_of_walks {place : Place} (h : Walks fs followLast l steps (.ended place)) : fs.Holds place := by
  generalize hended : Walk.ended place = w at h
  induction h with
  | arrived => cases hended; exact Or.inl rfl
  | stay _ ih => exact ih hended
  | up _ ih => exact ih hended
  | enter _ _ _ ih => exact ih hended
  | atLink _ hlookup _ => cases hended; exact Or.inr hlookup
  | turn => cases hended
  | atLeaf => cases hended; exact holds_placeAt fs _

theorem holds_of_follows {links : Nat} {place : Place} (h : Follows fs followLast links l steps place) :
    fs.Holds place := by
  induction h with
  | direct hwalk => exact holds_of_walks hwalk
  | linked _ _ ih => exact ih

theorem holds_of_resolve {p : Path} {place : Place} (h : fs.resolve followLast p = .ok place) : fs.Holds place :=
  holds_of_follows (resolve_eq_ok_iff.mp h).2

/-! ### Making a directory -/

theorem lookup_insert_of_some {entry old : Entry} (hfree : fs.lookup location = none)
    (hlookup : fs.lookup l = some old) : (fs.insert location entry).lookup l = some old := by
  rw [lookup_insert_ne fs entry, hlookup]
  rintro rfl
  rw [hfree] at hlookup
  cases hlookup

theorem walks_insert_linked {directory : Location} {target : Path} {rest : List Path.Step} (entry : Entry)
    (hfree : fs.lookup location = none) (hwalk : Walks fs false l steps (.linked directory target rest)) :
    Walks (fs.insert location entry) true l steps (.linked directory target rest) := by
  generalize hturn : Walk.linked directory target rest = w at hwalk
  induction hwalk with
  | arrived => cases hturn
  | stay _ ih => exact .stay (ih hturn)
  | up _ ih => exact .up (ih hturn)
  | enter hname hlookup _ ih => exact .enter hname (lookup_insert_of_some hfree hlookup) (ih hturn)
  | atLink => cases hturn
  | turn hname hlookup _ => exact .turn hname (lookup_insert_of_some hfree hlookup) (Or.inl rfl)
  | atLeaf => cases hturn

theorem walks_insert_directory (hwalk : Walks fs false l steps (.ended (.free location))) :
    Walks (fs.insert location .directory) true l steps (.ended (.occupied location .directory)) := by
  have hfree : fs.lookup location = none := holds_of_walks hwalk
  have hlocation : location ≠ [] := by
    rintro rfl
    cases hfree
  generalize hended : Walk.ended (.free location) = w at hwalk
  induction hwalk with
  | arrived => cases hended
  | stay _ ih => exact .stay (ih hended)
  | up _ ih => exact .up (ih hended)
  | enter hname hlookup _ ih => exact .enter hname (lookup_insert_of_some hfree hlookup) (ih hended)
  | atLink => cases hended
  | turn => cases hended
  | @atLeaf l name hname _ =>
      have hplace : name :: l = location := by
        rw [placeAt] at hended
        split at hended
        · cases hended
        · cases hended; rfl
      subst hplace
      exact .enter hname (lookup_insert_self fs _ hlocation) .arrived

theorem follows_insert_directory {links : Nat} (h : Follows fs false links l steps (.free location)) :
    Follows (fs.insert location .directory) true links l steps (.occupied location .directory) := by
  have hfree : fs.lookup location = none := holds_of_follows h
  generalize hplace : Place.free location = place at h
  induction h with
  | direct hwalk => cases hplace; exact .direct (walks_insert_directory hwalk)
  | linked hwalk _ ih => exact .linked (walks_insert_linked _ hfree hwalk) (ih hplace)

/-- The way to a free name leads to the directory that is made there. -/
theorem resolve_insert_directory {p : Path} (h : fs.resolve false p = .ok (.free location)) :
    (fs.insert location .directory).resolve true p = .ok (.occupied location .directory) := by
  obtain ⟨husable, hfollow⟩ := resolve_eq_ok_iff.mp h
  exact resolve_eq_ok_iff.mpr ⟨husable, follows_insert_directory hfollow⟩

theorem withoutEndSlashes_eq {p : Path} (h : p.EndsInSegment) : withoutEndSlashes p = p := by
  have hlast : p.text.toList.reverse.dropWhile (· == '/') = p.text.toList.reverse := by
    cases hreverse : p.text.toList.reverse with
    | nil => rfl
    | cons c rest =>
        have hc : c ≠ '/' := by
          rintro rfl
          exact h.2 (by rw [List.getLast?_eq_head?_reverse, hreverse]; rfl)
        rw [List.dropWhile_cons_of_neg (by rw [beq_iff_eq]; exact hc)]
  rw [withoutEndSlashes, hlast, List.reverse_reverse]
  split
  · rfl
  · rw [String.ofList_toList]

theorem isDirectory_iff {p : Path} :
    fs.isDirectory p = true ↔ ∃ l, fs.resolve true p = .ok (.occupied l .directory) := by
  rw [isDirectory]
  split
  · rename_i l hresolve
    exact ⟨fun _ => ⟨l, hresolve⟩, fun _ => rfl⟩
  · rename_i hnone
    exact ⟨nofun, fun ⟨l, hresolve⟩ => (hnone l hresolve).elim⟩

/-- A directory is there afterwards, and if it was not there before, it is the one change, where nothing was. -/
theorem ensureDirectory_of_ok {p : Path} (hsegment : p.EndsInSegment) (h : fs.ensureDirectory p = .ok made) :
    ∃ l, made.resolve true p = .ok (.occupied l .directory) ∧
      (made = fs ∨ fs.lookup l = none ∧ made = fs.insert l .directory) := by
  unfold ensureDirectory makeDirectory at h
  rw [withoutEndSlashes_eq hsegment] at h
  cases hresolve : fs.resolve false p with
  | error e =>
      rw [hresolve] at h
      simp only at h
      split at h
      · rename_i hdir
        cases h
        obtain ⟨l, hl⟩ := isDirectory_iff.mp hdir
        exact ⟨l, hl, Or.inl rfl⟩
      · cases h
  | ok place =>
      rw [hresolve] at h
      cases place with
      | occupied l entry =>
          simp only at h
          split at h
          · rename_i hdir
            cases h
            obtain ⟨l, hl⟩ := isDirectory_iff.mp hdir
            exact ⟨l, hl, Or.inl rfl⟩
          · cases h
      | free l =>
          cases h
          exact ⟨l, resolve_insert_directory hresolve, Or.inr ⟨holds_of_resolve hresolve, rfl⟩⟩

/-- The files with a directory where nothing was. -/
def withDirectory (fs : FileSystem) (l : Location) : FileSystem :=
  match fs.lookup l with
  | none => fs.insert l .directory
  | some _ => fs

/-- Making a directory in a directory: where its path is not too long, it is there afterwards. -/
theorem ensureDirectory_join {dir : Path} (hdir : fs.resolve true dir = .ok (.occupied d .directory)) {name : String}
    (hname : Path.IsName name) (hplace : fs.lookup (name :: d) = none ∨ fs.lookup (name :: d) = some .directory) :
    fs.ensureDirectory (dir.join ⟨name⟩) =
      if Fits dir name then .ok (fs.withDirectory (name :: d)) else .error .nameTooLong := by
  have hresolve := resolve_join hdir hname fun target hlink => by
    rcases hplace with hnone | hdirectory
    · rw [hnone] at hlink; cases hlink
    · rw [hdirectory] at hlink; cases hlink
  rw [ensureDirectory, makeDirectory, withoutEndSlashes_eq (dir.endsInSegment_join hname), hresolve, isDirectory, hresolve]
  by_cases hfits : Fits dir name
  · rw [if_pos hfits, if_pos hfits, placeAt, withDirectory]
    rcases hplace with hnone | hdirectory
    · rw [hnone]
    · rw [hdirectory]
      rfl
  · rw [if_neg hfits, if_neg hfits]
    rfl

/-! ### Entries of a directory without links -/

/-- The path leads to a directory that has no links among its entries. -/
structure Unlinked (dir : Path) (d : Location) (fs : FileSystem) : Prop where
  leads : fs.resolve true dir = .ok (.occupied d .directory)
  noLinks : ∀ name target, fs.lookup (name :: d) ≠ some (.link target)

variable {dir : Path} {name : String}

theorem Unlinked.fits (h : Unlinked dir d fs) (hname : Path.IsName name) {place : Place}
    (hresolve : fs.resolve true (dir.join ⟨name⟩) = .ok place) : Fits dir name := by
  refine Decidable.byContradiction fun hlong => ?_
  rw [resolve_join h.leads hname (h.noLinks name), if_neg hlong] at hresolve
  cases hresolve

theorem Unlinked.resolve_join (h : Unlinked dir d fs) (hname : Path.IsName name) (hfits : Fits dir name) :
    fs.resolve true (dir.join ⟨name⟩) = .ok (fs.placeAt (name :: d)) := by
  rw [FileSystem.resolve_join h.leads hname (h.noLinks name), if_pos hfits]

/-- What is opened at the path of an entry is the entry. -/
theorem Unlinked.openEntry_join (h : Unlinked dir d fs) (hname : Path.IsName name) (hfits : Fits dir name)
    {entry : Entry} :
    fs.openEntry (dir.join ⟨name⟩) = .ok entry ↔ fs.lookup (name :: d) = some entry := by
  rw [openEntry, h.resolve_join hname hfits, placeAt]
  cases fs.lookup (name :: d) with
  | none =>
      constructor <;>
        · intro heq
          cases heq
  | some old =>
      constructor <;>
        · intro heq
          cases heq
          rfl

/-- The entry after a file has been written in the place of `old`. A device keeps nothing of what is written. -/
def stored (old : Option Entry) (content : Content) : Option Entry :=
  match old with
  | some .device => some .device
  | _ => some (.file content)

theorem stored_stored (old : Option Entry) (first second : Content) :
    stored (stored old first) second = stored old second := by
  cases old with
  | none => rfl
  | some entry => cases entry <;> rfl

theorem stored_of_ne_device {old : Option Entry} (h : old ≠ some .device) (content : Content) :
    stored old content = some (.file content) := by
  unfold stored
  split
  · exact absurd rfl h
  · rfl

theorem exists_stored (old : Option Entry) (content : Content) : ∃ entry, stored old content = some entry := by
  unfold stored
  split <;> exact ⟨_, rfl⟩

theorem isLeaf_stored (old : Option Entry) (content : Content) : IsLeaf (stored old content) := by
  unfold stored
  split <;> trivial

theorem stored_ne_link (old : Option Entry) (content : Content) (target : String) :
    stored old content ≠ some (.link target) := by
  unfold stored
  split <;> nofun

theorem device_of_stored {old : Option Entry} {content : Content} (h : stored old content = some .device) :
    old = some .device := by
  unfold stored at h
  split at h
  · rfl
  · cases h

/-- The change that writing a file makes: its own entry at most. -/
structure Written (name : String) (d : Location) (content : Content) (fs changed : FileSystem) : Prop where
  change : LeafChange (name :: d) fs changed
  entry : changed.lookup (name :: d) = stored (fs.lookup (name :: d)) content

/-- Writing a file makes no device. -/
theorem Written.device {content : Content} (h : Written name d content fs changed)
    (hdevice : changed.lookup l = some .device) : fs.lookup l = some .device := by
  by_cases hl : l = name :: d
  · subst hl
    exact device_of_stored (h.entry ▸ hdevice)
  · rw [← h.change.elsewhere l hl]
    exact hdevice

theorem written_insert (content : Content) (hleaf : IsLeaf (fs.lookup (name :: d)))
    (hdevice : fs.lookup (name :: d) ≠ some .device) :
    Written name d content fs (fs.insert (name :: d) (.file content)) where
  change := .insert _ hleaf
  entry := by rw [lookup_insert_self fs _ (List.cons_ne_nil _ _), stored_of_ne_device hdevice]

theorem written_device (content : Content) (hdevice : fs.lookup (name :: d) = some .device) :
    Written name d content fs fs where
  change := .refl (by rw [hdevice]; trivial)
  entry := by rw [hdevice]; rfl

/-- The root is no leaf. -/
theorem exists_cons_of_isLeaf (h : IsLeaf (fs.lookup l)) : ∃ name d, l = name :: d := by
  cases l with
  | nil => exact h.elim
  | cons name d => exact ⟨name, d, rfl⟩

/-- A file that is written is where its path leads. -/
theorem exists_written {p : Path} {content : Content} (hwrite : fs.write p content = .ok changed) :
    ∃ name d, fs.resolve true p = .ok (fs.placeAt (name :: d)) ∧ Written name d content fs changed := by
  unfold write at hwrite
  cases hresolve : fs.resolve true p with
  | error e => rw [hresolve] at hwrite; cases hwrite
  | ok place =>
      have hholds := holds_of_resolve hresolve
      rw [hresolve] at hwrite
      cases place with
      | free l =>
          have hnone : fs.lookup l = none := hholds
          have hleaf : IsLeaf (fs.lookup l) := by rw [hnone]; trivial
          obtain ⟨name, d, rfl⟩ := exists_cons_of_isLeaf hleaf
          cases hwrite
          exact ⟨name, d, by rw [placeAt, hnone], written_insert content hleaf (by simp [hnone])⟩
      | occupied l entry =>
          cases entry with
          | directory => cases hwrite
          | link target => cases hwrite
          | file old =>
              have hfile : fs.lookup l = some (.file old) := hholds.resolve_left (by simp)
              have hleaf : IsLeaf (fs.lookup l) := by rw [hfile]; trivial
              obtain ⟨name, d, rfl⟩ := exists_cons_of_isLeaf hleaf
              cases hwrite
              exact ⟨name, d, by rw [placeAt, hfile], written_insert content hleaf (by simp [hfile])⟩
          | device =>
              have hdevice : fs.lookup l = some .device := hholds.resolve_left (by simp)
              obtain ⟨name, d, rfl⟩ := exists_cons_of_isLeaf (by rw [hdevice]; trivial)
              cases hwrite
              exact ⟨name, d, by rw [placeAt, hdevice], written_device content hdevice⟩

theorem Unlinked.written (h : Unlinked dir d fs) (hname : Path.IsName name) {content : Content}
    (hwrite : fs.write (dir.join ⟨name⟩) content = .ok changed) :
    Fits dir name ∧ Written name d content fs changed := by
  obtain ⟨first, parent, hresolve, hwritten⟩ := exists_written hwrite
  have hfits := h.fits hname hresolve
  rw [h.resolve_join hname hfits] at hresolve
  cases eq_of_placeAt_eq (Except.ok.inj hresolve)
  exact ⟨hfits, hwritten⟩

/-- Writing a file keeps a directory without links. -/
theorem Unlinked.of_written (h : Unlinked dir d fs) {content : Content} (hwritten : Written name d content fs changed) :
    Unlinked dir d changed := by
  refine ⟨hwritten.change.resolve h.leads fun _ => rfl, ?_⟩
  intro other target hlink
  by_cases hother : other = name
  · subst hother
    rw [hwritten.entry] at hlink
    exact stored_ne_link _ _ _ hlink
  · rw [hwritten.change.elsewhere _ (by rintro heq; cases heq; exact hother rfl)] at hlink
    exact h.noLinks other target hlink

/-- Writes files into a directory, one after the other. -/
def writeAll (fs : FileSystem) (dir : Path) (writes : List (String × Content)) : Except IoError FileSystem :=
  writes.foldlM (fun fs w => fs.write (dir.join ⟨w.1⟩) w.2) fs

theorem writeAll_cons_of_ok {content : Content} (h : fs.write (dir.join ⟨name⟩) content = .ok changed)
    (writes : List (String × Content)) : fs.writeAll dir ((name, content) :: writes) = changed.writeAll dir writes := by
  unfold writeAll
  rw [List.foldlM_cons, h]
  rfl

theorem writeAll_append_of_ok {writes : List (String × Content)} (h : fs.writeAll dir writes = .ok changed)
    (more : List (String × Content)) : fs.writeAll dir (writes ++ more) = changed.writeAll dir more := by
  unfold writeAll at h ⊢
  rw [List.foldlM_append, h]
  rfl

theorem exists_write_of_writeAll {w : String × Content} {writes : List (String × Content)}
    (h : fs.writeAll dir (w :: writes) = .ok changed) :
    ∃ between, fs.write (dir.join ⟨w.1⟩) w.2 = .ok between ∧ between.writeAll dir writes = .ok changed := by
  unfold writeAll at h
  rw [List.foldlM_cons] at h
  cases hwrite : fs.write (dir.join ⟨w.1⟩) w.2 with
  | error e => rw [hwrite] at h; cases h
  | ok between =>
      rw [hwrite] at h
      exact ⟨between, rfl, h⟩

/-- What is written to a name last. -/
def lastWrite (writes : List (String × Content)) (name : String) : Option Content := writes.reverse.lookup name

theorem lastWrite_cons (w : String × Content) (writes : List (String × Content)) (name : String) :
    lastWrite (w :: writes) name = (lastWrite writes name).or (if name = w.1 then some w.2 else none) := by
  rw [lastWrite, List.reverse_cons, List.lookup_append, ← lastWrite]
  by_cases hname : name = w.1
  · rw [if_pos hname, List.lookup_cons, beq_iff_eq.mpr hname]
  · rw [if_neg hname, List.lookup_cons, beq_eq_false_iff_ne.mpr hname]
    rfl

theorem lastWrite_append (writes more : List (String × Content)) (name : String) :
    lastWrite (writes ++ more) name = (lastWrite more name).or (lastWrite writes name) := by
  rw [lastWrite, List.reverse_append, List.lookup_append, ← lastWrite, ← lastWrite]

theorem lastWrite_eq_none {writes : List (String × Content)} (h : name ∉ writes.map Prod.fst) :
    lastWrite writes name = none := by
  induction writes with
  | nil => rfl
  | cons w writes ih =>
      rw [List.map_cons, List.mem_cons, not_or] at h
      rw [lastWrite_cons, ih h.2, if_neg h.1, Option.none_or]

theorem mem_of_lastWrite {writes : List (String × Content)} {content : Content}
    (h : lastWrite writes name = some content) : (name, content) ∈ writes := by
  obtain ⟨before, after, hsplit, -⟩ := List.lookup_eq_some_iff.mp h
  rw [← List.mem_reverse, hsplit]
  exact List.mem_append_right _ List.mem_cons_self

/-- What is written to a name only once is written to it last. -/
theorem lastWrite_of_mem {writes : List (String × Content)} (hnodup : (writes.map Prod.fst).Nodup) {content : Content}
    (hmem : (name, content) ∈ writes) : lastWrite writes name = some content := by
  induction writes with
  | nil => cases hmem
  | cons w writes ih =>
      rw [List.map_cons, List.nodup_cons] at hnodup
      rw [lastWrite_cons]
      rcases List.mem_cons.mp hmem with rfl | hmem
      · rw [lastWrite_eq_none hnodup.1, Option.none_or, if_pos rfl]
      · rw [ih hnodup.2 hmem, Option.some_or]

/-- What is at a name after files have been written: what was written to it last. -/
def storedLast (old : Option Entry) : Option Content → Option Entry
  | none => old
  | some content => stored old content

/-- A directory without links after files have been written into it. -/
theorem Unlinked.writeAll (h : Unlinked dir d fs) {writes : List (String × Content)}
    (hnames : ∀ w ∈ writes, Path.IsName w.1) (hwrites : fs.writeAll dir writes = .ok changed) :
    Unlinked dir d changed ∧ (∀ w ∈ writes, Fits dir w.1) ∧
      ∀ name, changed.lookup (name :: d) = storedLast (fs.lookup (name :: d)) (lastWrite writes name) := by
  induction writes generalizing fs with
  | nil =>
      cases hwrites
      exact ⟨h, fun _ hmem => (List.not_mem_nil hmem).elim, fun _ => rfl⟩
  | cons w writes ih =>
      obtain ⟨between, hwrite, hwrites⟩ := exists_write_of_writeAll hwrites
      obtain ⟨hfits, hwritten⟩ := h.written (hnames w List.mem_cons_self) hwrite
      obtain ⟨hlast, hall, hlookup⟩ :=
        ih (h.of_written hwritten) (fun w hw => hnames w (List.mem_cons_of_mem _ hw)) hwrites
      refine ⟨hlast, List.forall_mem_cons.mpr ⟨hfits, hall⟩, ?_⟩
      intro name
      rw [hlookup, lastWrite_cons]
      by_cases hname : name = w.1
      · subst hname
        rw [hwritten.entry, if_pos rfl]
        cases lastWrite writes w.1 with
        | none => rfl
        | some content => exact stored_stored _ _ _
      · rw [hwritten.change.elsewhere _ (fun heq => hname (List.cons.inj heq).1), if_neg hname, Option.or_none]

/-- Every entry is in a directory. -/
def IsTree (fs : FileSystem) : Prop := ∀ pair ∈ fs.entries, fs.lookup pair.1.tail = some .directory

theorem mem_entries_of_lookup {entry : Entry} (h : fs.lookup (name :: d) = some entry) :
    (name :: d, entry) ∈ fs.entries := by
  obtain ⟨before, after, hsplit, -⟩ := List.lookup_eq_some_iff.mp h
  rw [hsplit]
  exact List.mem_append_right _ List.mem_cons_self

theorem IsTree.lookup_eq_none (h : fs.IsTree) (hfree : fs.lookup d = none) (name : String) :
    fs.lookup (name :: d) = none := by
  cases hlookup : fs.lookup (name :: d) with
  | none => rfl
  | some entry =>
      have hdir := h _ (mem_entries_of_lookup hlookup)
      rw [List.tail_cons, hfree] at hdir
      cases hdir

/-- A file system as there are: every entry is in a directory, at a location of its own, and under a name that is one. -/
structure IsWorld (fs : FileSystem) : Prop where
  tree : fs.IsTree
  nodup : (fs.entries.map Prod.fst).Nodup
  names : ∀ pair ∈ fs.entries, ∀ name ∈ pair.1, Path.IsName name

theorem lookup_of_mem {entries : List (Location × Entry)} (hnodup : (entries.map Prod.fst).Nodup) {entry : Entry}
    (hmem : (l, entry) ∈ entries) : entries.lookup l = some entry := by
  induction entries with
  | nil => cases hmem
  | cons pair entries ih =>
      rw [List.map_cons, List.nodup_cons] at hnodup
      rcases List.mem_cons.mp hmem with rfl | hmem
      · rw [List.lookup_cons, beq_self_eq_true]
      · have hne : l ≠ pair.1 := by
          rintro rfl
          exact hnodup.1 (List.mem_map.mpr ⟨_, hmem, rfl⟩)
        rw [List.lookup_cons, beq_eq_false_iff_ne.mpr hne]
        exact ih hnodup.2 hmem

/-- What is listed in a directory is there. -/
theorem IsWorld.of_mem_children (h : fs.IsWorld) {entry : Entry} (hmem : (name, entry) ∈ fs.children d) :
    fs.lookup (name :: d) = some entry ∧ Path.IsName name := by
  rw [children, List.mem_filterMap] at hmem
  obtain ⟨⟨place, placed⟩, hplaced, hsome⟩ := hmem
  cases place with
  | nil => cases hsome
  | cons first parent =>
      simp only at hsome
      split at hsome
      · rename_i hparent
        cases hsome
        subst hparent
        exact ⟨lookup_of_mem h.nodup hplaced, h.names _ hplaced _ List.mem_cons_self⟩
      · cases hsome

end Occupancy.FileSystem
