import Occupancy.FileSystem.Read
import Occupancy.Proofs.FileSystem.Walk

/-! The locations that a path looks at on its way, links followed. A path leads where it led as long as no location that
it looks at has changed, even if it leads nowhere. -/

namespace Occupancy.FileSystem

variable {fs changed : FileSystem} {followLast : Bool} {l : Location} {steps : List Path.Step} {p : Path}

/-- The locations that a walk looks at, up to the one where it stops. -/
def walkLooks (fs : FileSystem) : Location → List Path.Step → List Location
  | _, [] => []
  | l, .stay :: steps => walkLooks fs l steps
  | l, .up :: steps => walkLooks fs l.tail steps
  | l, .down name :: steps =>
    (name :: l) ::
      match fs.lookup (name :: l) with
      | some .directory => walkLooks fs (name :: l) steps
      | _ => []

/-- The locations that a walk and the walks along the links on its way look at. -/
def followLooks (fs : FileSystem) : Nat → Location → List Path.Step → List Location
  | 0, l, steps => walkLooks fs l steps
  | links + 1, l, steps =>
    walkLooks fs l steps ++
      match fs.walk true l steps with
      | .ok (.linked directory target rest) => followLooks fs links (start directory target) (target.steps ++ rest)
      | _ => []

/-- The locations that a path looks at. -/
def looks (fs : FileSystem) (p : Path) : List Location := fs.followLooks linkLimit (start fs.workingDirectory p) p.steps

/-- The two file systems have the same entries at the locations of the list. -/
def SameAt (fs changed : FileSystem) (locations : List Location) : Prop :=
  ∀ l ∈ locations, changed.lookup l = fs.lookup l

theorem walk_eq_of_sameAt (h : SameAt fs changed (fs.walkLooks l steps)) :
    changed.walk followLast l steps = fs.walk followLast l steps := by
  induction steps generalizing l with
  | nil => rfl
  | cons step steps ih =>
      cases step with
      | stay => exact ih h
      | up => exact ih h
      | down name =>
          rw [walkLooks] at h
          have hsame := h _ List.mem_cons_self
          rw [walk, walk, hsame]
          split
          · rfl
          · cases hlookup : fs.lookup (name :: l) with
            | none => rfl
            | some entry =>
                cases entry with
                | directory =>
                    rw [hlookup] at h
                    exact ih fun l hl => h l (List.mem_cons_of_mem _ hl)
                | _ => rfl

theorem follow_eq_of_sameAt {links : Nat} (h : SameAt fs changed (fs.followLooks links l steps)) :
    changed.follow true links l steps = fs.follow true links l steps := by
  induction links generalizing l steps with
  | zero => rw [follow, follow, walk_eq_of_sameAt h]
  | succ links ih =>
      rw [followLooks] at h
      have hwalk : changed.walk true l steps = fs.walk true l steps :=
        walk_eq_of_sameAt fun l hl => h l (List.mem_append_left _ hl)
      rw [follow, follow, hwalk]
      cases hturn : fs.walk true l steps with
      | error e => rfl
      | ok w =>
          cases w with
          | ended place => rfl
          | linked directory target rest =>
              rw [hturn] at h
              exact ih fun l hl => h l (List.mem_append_right _ hl)

/-- **The frame of a path.** Changes at locations that a path does not look at make no difference to where it leads. -/
theorem resolve_eq_of_sameAt (hdir : changed.workingDirectory = fs.workingDirectory)
    (h : SameAt fs changed (fs.looks p)) : changed.resolve true p = fs.resolve true p := by
  rw [looks, ← hdir] at h
  rw [resolve, resolve, ← hdir, follow_eq_of_sameAt h]

theorem read_eq_of_sameAt (hdir : changed.workingDirectory = fs.workingDirectory)
    (h : SameAt fs changed (fs.looks p)) : changed.read p = fs.read p := by
  rw [read, read, openEntry, openEntry, resolve_eq_of_sameAt hdir h]

end Occupancy.FileSystem
