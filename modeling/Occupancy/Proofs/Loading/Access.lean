import Occupancy.Proofs.FileSystem.Writing
import Occupancy.Proofs.Loading.Verdict

/-! Trouble with access to a descriptor, and faults of its text. A descriptor that cannot be opened is reported as such. A
directory can be opened and only fails to be read, which happens while its text is parsed and is reported as a fault of the
text; of all the failures to read, this is the only one that is. -/

namespace Occupancy

namespace FileSystem

variable {fs : FileSystem} {p : Path} {e : IoError}

/-! ### Opening and reading -/

theorem openEntry_ne_link (fs : FileSystem) (p : Path) (target : String) : fs.openEntry p ≠ .ok (.link target) := by
  intro h
  rw [openEntry] at h
  split at h
  · cases h
  · cases h
  · rename_i hresolve
    cases h
    exact isNoLink_of_follows (resolve_eq_ok_iff.mp hresolve).2

theorem openEntry_eq_directory_iff : fs.openEntry p = .ok .directory ↔ fs.isDirectory p = true := by
  rw [openEntry, isDirectory_iff]
  constructor
  · intro h
    split at h
    · cases h
    · cases h
    · cases h
      exact ⟨_, ‹_›⟩
  · rintro ⟨l, hresolve⟩
    rw [hresolve]

/-- What can be opened can be read, unless it is a directory. -/
theorem read_eq_error_iff (hdir : fs.isDirectory p = false) : fs.read p = .error e ↔ fs.openEntry p = .error e := by
  rw [read]
  cases hopen : fs.openEntry p with
  | error cause => simp only [Except.error.injEq]
  | ok entry =>
      cases entry with
      | directory => rw [openEntry_eq_directory_iff.mp hopen] at hdir; cases hdir
      | link target => exact absurd hopen (openEntry_ne_link fs p target)
      | file content =>
          constructor <;>
            · intro h
              cases h
      | device =>
          constructor <;>
            · intro h
              cases h

theorem read_directory (hdir : fs.isDirectory p = true) : fs.read p = .error .isADirectory := by
  rw [read, openEntry_eq_directory_iff.mpr hdir]
  rfl

end FileSystem

namespace Loading

variable {files : FileSystem} {path : Path}

/-! ### Errors of the descriptor -/

theorem loadDescriptor_of_openEntry_error {e : IoError} (hopen : files.openEntry path = .error e) :
    loadDescriptor files path = .error (.fileRead e) := by
  rw [loadDescriptor, hopen]

theorem loadDescriptor_directory (hdir : files.isDirectory path = true) :
    loadDescriptor files path = .error (.json (.unreadable .isADirectory)) := by
  rw [loadDescriptor, FileSystem.openEntry_eq_directory_iff.mpr hdir]
  rfl

/-- A fault of the text is found in the bytes that are read, or nothing could be read. -/
theorem exists_of_loadDescriptor_json {cause : JsonError} (h : loadDescriptor files path = .error (.json cause)) :
    (∃ e, files.read path = .error e) ∨
      ∃ bytes fault, files.read path = .ok bytes ∧ Descriptor.read bytes = .error fault ∧ cause = .malformed fault := by
  cases hread : files.read path with
  | error e => exact Or.inl ⟨e, rfl⟩
  | ok bytes =>
      rw [loadDescriptor_of_read hread] at h
      split at h
      · rename_i fault htext
        cases h
        exact Or.inr ⟨bytes, fault, rfl, htext, rfl⟩
      · split at h <;> cases h

/-- The counts have no text that could be at fault. -/
theorem loadCounts_ne_json (d : Descriptor) (cause : JsonError) : loadCounts files path d ≠ .error (.json cause) := by
  intro h
  cases hread : files.read (countsPath path d) with
  | error e =>
      rw [loadCounts_of_error hread] at h
      cases h
  | ok b =>
      have hdecodes := Counts.decodes_decode d.byteOrder b
      generalize Counts.decode d.byteOrder b = decoded at hdecodes
      rw [loadCounts_eq hread hdecodes] at h
      cases decoded with
      | error fault => cases fault <;> cases h
      | ok counts =>
          simp only at h
          split at h <;> cases h

theorem loadDescriptor_of_loadAlgorithm_json {cause : JsonError}
    (h : loadAlgorithm files path = .error (.json cause)) : loadDescriptor files path = .error (.json cause) := by
  rw [loadAlgorithm] at h
  split at h
  · rename_i hdescriptor
    cases h
    exact hdescriptor
  · exact absurd h (loadCounts_ne_json _ _)

/-! ### Telling them apart -/

/-- An outcome of loading in which a failure to open or to read the descriptor is one of access, and a fault of the text is
one that the text has, with everything read. -/
structure ToldApart {α : Type} (files : FileSystem) (path : Path) (outcome : Except LoadError α) : Prop where
  access (e : IoError) (hread : files.read path = .error e) : outcome = .error (.fileRead e)
  text (cause : JsonError) (hjson : outcome = .error (.json cause)) :
    ∃ bytes fault, files.read path = .ok bytes ∧ Descriptor.read bytes = .error fault ∧ cause = .malformed fault

theorem toldApart_loadDescriptor (hdir : files.isDirectory path = false) :
    ToldApart files path (loadDescriptor files path) where
  access e hread := loadDescriptor_of_openEntry_error ((FileSystem.read_eq_error_iff hdir).mp hread)
  text cause hjson := by
    rcases exists_of_loadDescriptor_json hjson with ⟨e, hread⟩ | hfault
    · rw [loadDescriptor_of_openEntry_error ((FileSystem.read_eq_error_iff hdir).mp hread)] at hjson
      cases hjson
    · exact hfault

/-- A directory is a failure to read that is reported as a fault of the text. -/
theorem not_toldApart_of_directory {α : Type} {outcome : Except LoadError α} (hdir : files.isDirectory path = true)
    (houtcome : outcome = .error (.json (.unreadable .isADirectory))) : ¬ToldApart files path outcome := by
  intro h
  have haccess := h.access .isADirectory (FileSystem.read_directory hdir)
  rw [houtcome] at haccess
  cases haccess

/-- **When access and text are told apart.** Whether the descriptor alone is loaded or its counts with it, failures to open
or to read it and faults of its text are told apart exactly if its path does not lead to a directory. -/
theorem toldApart_iff (files : FileSystem) (path : Path) :
    (ToldApart files path (loadDescriptor files path) ↔ files.isDirectory path = false) ∧
    (ToldApart files path (loadAlgorithm files path) ↔ files.isDirectory path = false) := by
  cases hdir : files.isDirectory path with
  | true =>
      have hdescriptor := loadDescriptor_directory hdir
      have halgorithm := loadAlgorithm_of_error hdescriptor
      exact ⟨iff_of_false (not_toldApart_of_directory hdir hdescriptor) nofun,
        iff_of_false (not_toldApart_of_directory hdir halgorithm) nofun⟩
  | false =>
      have hdescriptor := toldApart_loadDescriptor hdir
      refine ⟨iff_of_true hdescriptor rfl, iff_of_true ⟨?_, ?_⟩ rfl⟩
      · exact fun e hread => loadAlgorithm_of_error (hdescriptor.access e hread)
      · exact fun cause hjson => hdescriptor.text cause (loadDescriptor_of_loadAlgorithm_json hjson)

/-- A directory in the place of a descriptor. -/
def misplaced : FileSystem where
  entries := [(["d.meta.json"], .directory)]
  workingDirectory := []

/-- That the directory cannot be read is reported as a fault of its text. -/
theorem not_always_toldApart :
    ¬∀ (files : FileSystem) (path : Path),
      ToldApart files path (loadDescriptor files path) ∧ ToldApart files path (loadAlgorithm files path) := by
  intro hall
  have hdir : misplaced.isDirectory ⟨"d.meta.json"⟩ = true := rfl
  exact not_toldApart_of_directory hdir (loadDescriptor_directory hdir) (hall misplaced ⟨"d.meta.json"⟩).1

end Loading

end Occupancy
