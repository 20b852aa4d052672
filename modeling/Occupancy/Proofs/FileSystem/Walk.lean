import Occupancy.FileSystem.Resolve
import Occupancy.Proofs.Path

/-! Where a path leads, as rules. A walk looks at directories and links on its way and at anything else only at its
end. So what is put in the place of a file, or where nothing was, changes the way to no other place; and a path that
goes on behind a directory leads where the walk from that directory leads. -/

namespace Occupancy

/-- Not the entry at a location, unless a directory is meant. -/
def Place.AwayFrom (location : Location) : Place → Prop
  | .occupied l entry => l = location → entry = .directory
  | .free l => l ≠ location

/-- Not a link, which a way on which every link is followed does not end at. -/
def Place.IsNoLink : Place → Prop
  | .occupied _ (.link _) => False
  | _ => True

namespace FileSystem

/-- Nothing that a walk goes on from: no directory and no link. -/
def IsLeaf : Option Entry → Prop
  | some .directory | some (.link _) => False
  | _ => True

theorem isLeaf_of_ne {entry : Entry} (hdirectory : entry ≠ .directory) (hlink : ∀ target, entry ≠ .link target) :
    IsLeaf (some entry) := by
  cases entry with
  | directory => exact hdirectory rfl
  | link target => exact hlink target rfl
  | _ => trivial

/-- The place at the location of an entry that may be missing. -/
def placeAt (fs : FileSystem) (location : Location) : Place :=
  match fs.lookup location with
  | some entry => .occupied location entry
  | none => .free location

def Walk.AwayFrom (location : Location) : Walk → Prop
  | .ended place => place.AwayFrom location
  | .linked _ _ _ => True

/-- A walk that does not fail, by its steps. -/
inductive Walks (fs : FileSystem) (followLast : Bool) : Location → List Path.Step → Walk → Prop
  | arrived {l : Location} : Walks fs followLast l [] (.ended (.occupied l .directory))
  | stay {l : Location} {steps : List Path.Step} {w : Walk} (hrest : Walks fs followLast l steps w) :
      Walks fs followLast l (.stay :: steps) w
  | up {l : Location} {steps : List Path.Step} {w : Walk} (hrest : Walks fs followLast l.tail steps w) :
      Walks fs followLast l (.up :: steps) w
  | enter {l : Location} {name : String} {steps : List Path.Step} {w : Walk}
      (hname : name.utf8ByteSize ≤ nameLimit) (hlookup : fs.lookup (name :: l) = some .directory)
      (hrest : Walks fs followLast (name :: l) steps w) : Walks fs followLast l (.down name :: steps) w
  | atLink {l : Location} {name target : String} (hname : name.utf8ByteSize ≤ nameLimit)
      (hlookup : fs.lookup (name :: l) = some (.link target)) (hlast : followLast = false) :
      Walks fs followLast l [.down name] (.ended (.occupied (name :: l) (.link target)))
  | turn {l : Location} {name target : String} {steps : List Path.Step} (hname : name.utf8ByteSize ≤ nameLimit)
      (hlookup : fs.lookup (name :: l) = some (.link target)) (hfollow : followLast = true ∨ steps ≠ []) :
      Walks fs followLast l (.down name :: steps) (.linked l ⟨target⟩ steps)
  | atLeaf {l : Location} {name : String} (hname : name.utf8ByteSize ≤ nameLimit)
      (hleaf : IsLeaf (fs.lookup (name :: l))) :
      Walks fs followLast l [.down name] (.ended (fs.placeAt (name :: l)))

variable {fs changed : FileSystem} {followLast : Bool} {location l d : Location} {steps : List Path.Step}

theorem placeAt_eq_occupied_iff {entry : Entry} :
    fs.placeAt location = .occupied l entry ↔ location = l ∧ fs.lookup location = some entry := by
  rw [placeAt]
  cases fs.lookup location with
  | none => exact ⟨nofun, nofun⟩
  | some old => rw [Place.occupied.injEq, Option.some.injEq]

theorem eq_of_placeAt_eq {other : Location} (h : fs.placeAt location = fs.placeAt other) : location = other := by
  unfold placeAt at h
  split at h <;> split at h <;> cases h <;> rfl

theorem walks_of_walk {w : Walk} (h : fs.walk followLast l steps = .ok w) : Walks fs followLast l steps w := by
  induction steps generalizing l with
  | nil => cases h; exact .arrived
  | cons step steps ih =>
      cases step with
      | stay => exact .stay (ih h)
      | up => exact .up (ih h)
      | down name =>
          rw [walk] at h
          split at h
          · cases h
          have hname : name.utf8ByteSize ≤ nameLimit := by omega
          split at h
          · exact .enter hname ‹_› (ih h)
          · rename_i target hlookup
            split at h
            · rename_i hstop
              rw [Bool.and_eq_true, List.isEmpty_iff, Bool.not_eq_true'] at hstop
              obtain ⟨rfl, hlast⟩ := hstop
              cases h
              exact .atLink hname hlookup hlast
            · rename_i hgo
              cases h
              refine .turn hname hlookup ?_
              cases followLast
              · right
                rintro rfl
                exact hgo rfl
              · exact Or.inl rfl
          · rename_i entry hdirectory hlink hlookup
            split at h
            · rename_i hlast
              cases List.isEmpty_iff.mp hlast
              cases h
              have hplace : fs.placeAt (name :: l) = .occupied (name :: l) entry := by rw [placeAt, hlookup]
              rw [← hplace]
              exact .atLeaf hname (by rw [hlookup]; exact isLeaf_of_ne hdirectory hlink)
            · cases h
          · rename_i hlookup
            split at h
            · rename_i hlast
              cases List.isEmpty_iff.mp hlast
              cases h
              have hplace : fs.placeAt (name :: l) = .free (name :: l) := by rw [placeAt, hlookup]
              rw [← hplace]
              exact .atLeaf hname (by rw [hlookup]; exact trivial)
            · cases h

theorem walk_of_walks {w : Walk} (h : Walks fs followLast l steps w) : fs.walk followLast l steps = .ok w := by
  induction h with
  | arrived => rfl
  | stay _ ih => exact ih
  | up _ ih => exact ih
  | enter hname hlookup _ ih => rw [walk, if_neg (by omega), hlookup]; exact ih
  | atLink hname hlookup hlast => rw [walk, if_neg (by omega), hlookup, hlast]; rfl
  | turn hname hlookup hfollow =>
      rw [walk, if_neg (by omega), hlookup]
      refine if_neg ?_
      rw [Bool.and_eq_true, List.isEmpty_iff, Bool.not_eq_true']
      rintro ⟨hsteps, hlast⟩
      rcases hfollow with h | h
      · rw [hlast] at h; cases h
      · exact h hsteps
  | @atLeaf l name hname hleaf =>
      rw [walk, if_neg (by omega), placeAt]
      cases hlookup : fs.lookup (name :: l) with
      | none => rfl
      | some entry =>
          rw [hlookup] at hleaf
          cases entry with
          | directory => exact hleaf.elim
          | link target => exact hleaf.elim
          | _ => rfl

/-- A path that does not fail, by the links on its way. -/
inductive Follows (fs : FileSystem) (followLast : Bool) : Nat → Location → List Path.Step → Place → Prop
  | direct {links : Nat} {l : Location} {steps : List Path.Step} {place : Place}
      (hwalk : Walks fs followLast l steps (.ended place)) : Follows fs followLast links l steps place
  | linked {links : Nat} {l directory : Location} {target : Path} {steps rest : List Path.Step} {place : Place}
      (hwalk : Walks fs followLast l steps (.linked directory target rest))
      (hrest : Follows fs followLast links (start directory target) (target.steps ++ rest) place) :
      Follows fs followLast (links + 1) l steps place

theorem follows_of_follow {links : Nat} {place : Place} (h : fs.follow followLast links l steps = .ok place) :
    Follows fs followLast links l steps place := by
  induction links generalizing l steps with
  | zero =>
      rw [follow] at h
      split at h
      · cases h
      · cases h; exact .direct (walks_of_walk ‹_›)
      · cases h
  | succ links ih =>
      rw [follow] at h
      split at h
      · cases h
      · cases h; exact .direct (walks_of_walk ‹_›)
      · exact .linked (walks_of_walk ‹_›) (ih h)

theorem follow_of_follows {links : Nat} {place : Place} (h : Follows fs followLast links l steps place) :
    fs.follow followLast links l steps = .ok place := by
  induction h with
  | @direct links _ _ _ hwalk => cases links <;> rw [follow, walk_of_walks hwalk]
  | linked hwalk _ ih => rw [follow, walk_of_walks hwalk]; exact ih

/-- A text that the system takes for a path. -/
structure IsUsable (p : Path) : Prop where
  no_nul : ¬p.text.toList.contains '\x00' = true
  nonempty : ¬p.text.isEmpty = true
  short : ¬pathLimit ≤ p.text.utf8ByteSize

theorem resolve_eq_ok_iff {p : Path} {place : Place} :
    fs.resolve followLast p = .ok place ↔
      IsUsable p ∧ Follows fs followLast linkLimit (start fs.workingDirectory p) p.steps place := by
  unfold resolve
  constructor
  · intro h
    split at h
    · cases h
    rename_i hnul
    split at h
    · cases h
    rename_i hempty
    split at h
    · cases h
    rename_i hlong
    exact ⟨⟨hnul, hempty, hlong⟩, follows_of_follow h⟩
  · rintro ⟨husable, hfollow⟩
    rw [if_neg husable.no_nul, if_neg husable.nonempty, if_neg husable.short, follow_of_follows hfollow]

/-! ### Links that are followed -/

theorem isNoLink_placeAt (hleaf : IsLeaf (fs.lookup location)) : (fs.placeAt location).IsNoLink := by
  rw [placeAt]
  cases hlookup : fs.lookup location with
  | none => trivial
  | some entry =>
      rw [hlookup] at hleaf
      cases entry with
      | link target => exact hleaf.elim
      | _ => trivial

theorem isNoLink_of_walks {place : Place} (h : Walks fs true l steps (.ended place)) : place.IsNoLink := by
  generalize hended : Walk.ended place = w at h
  induction h with
  | arrived => cases hended; trivial
  | stay _ ih => exact ih hended
  | up _ ih => exact ih hended
  | enter _ _ _ ih => exact ih hended
  | atLink _ _ hlast => cases hlast
  | turn => cases hended
  | atLeaf _ hleaf => cases hended; exact isNoLink_placeAt hleaf

theorem isNoLink_of_follows {links : Nat} {place : Place} (h : Follows fs true links l steps place) :
    place.IsNoLink := by
  induction h with
  | direct hwalk => exact isNoLink_of_walks hwalk
  | linked _ _ ih => exact ih

/-! ### A change that no walk goes through -/

/-- The second file system differs from the first at most in the entry at one location, which is a leaf in the
first. -/
structure LeafChange (location : Location) (fs changed : FileSystem) : Prop where
  workingDirectory : changed.workingDirectory = fs.workingDirectory
  leaf : IsLeaf (fs.lookup location)
  elsewhere : ∀ l, l ≠ location → changed.lookup l = fs.lookup l

namespace LeafChange

variable (h : LeafChange location fs changed)

include h

theorem lookup_of_not_leaf {entry : Entry} (hlookup : fs.lookup l = some entry) (hentry : ¬IsLeaf (some entry)) :
    changed.lookup l = some entry := by
  rw [h.elsewhere, hlookup]
  rintro rfl
  exact hentry (hlookup ▸ h.leaf)

/-- A walk that does not end at the changed location ends as before. -/
theorem walks {w : Walk} (hwalk : Walks fs followLast l steps w) (haway : w.AwayFrom location) :
    Walks changed followLast l steps w := by
  induction hwalk with
  | arrived => exact .arrived
  | stay _ ih => exact .stay (ih haway)
  | up _ ih => exact .up (ih haway)
  | enter hname hlookup _ ih => exact .enter hname (h.lookup_of_not_leaf hlookup id) (ih haway)
  | atLink hname hlookup hlast => exact .atLink hname (h.lookup_of_not_leaf hlookup id) hlast
  | turn hname hlookup hfollow => exact .turn hname (h.lookup_of_not_leaf hlookup id) hfollow
  | @atLeaf l name hname hleaf =>
      have hne : name :: l ≠ location := by
        intro heq
        cases hlookup : fs.lookup (name :: l) with
        | none =>
            rw [placeAt, hlookup] at haway
            exact haway heq
        | some entry =>
            rw [placeAt, hlookup] at haway
            rw [hlookup, haway heq] at hleaf
            exact hleaf
      have hsame := h.elsewhere _ hne
      have hplace : fs.placeAt (name :: l) = changed.placeAt (name :: l) := by rw [placeAt, placeAt, hsame]
      rw [hplace]
      exact .atLeaf hname (hsame ▸ hleaf)

theorem follows {links : Nat} {place : Place} (hfollow : Follows fs followLast links l steps place)
    (haway : place.AwayFrom location) : Follows changed followLast links l steps place := by
  induction hfollow with
  | direct hwalk => exact .direct (h.walks hwalk haway)
  | linked hwalk _ ih => exact .linked (h.walks hwalk trivial) (ih haway)

/-- A path to another place than the changed one leads there as before. -/
theorem resolve {p : Path} {place : Place} (hplace : fs.resolve followLast p = .ok place)
    (haway : place.AwayFrom location) : changed.resolve followLast p = .ok place := by
  obtain ⟨husable, hfollow⟩ := resolve_eq_ok_iff.mp hplace
  refine resolve_eq_ok_iff.mpr ⟨husable, ?_⟩
  rw [h.workingDirectory]
  exact h.follows hfollow haway

/-- A walk to the changed location leads there as before if no walk goes on from there now. -/
theorem walks_placeAt (hleaf : IsLeaf (changed.lookup location))
    (hwalk : Walks fs followLast l steps (.ended (fs.placeAt location))) :
    Walks changed followLast l steps (.ended (changed.placeAt location)) := by
  generalize hended : Walk.ended (fs.placeAt location) = w at hwalk
  induction hwalk with
  | arrived =>
      obtain ⟨-, hdirectory⟩ := placeAt_eq_occupied_iff.mp (Walk.ended.inj hended)
      exact (hdirectory ▸ h.leaf : IsLeaf (some .directory)).elim
  | stay _ ih => exact .stay (ih hended)
  | up _ ih => exact .up (ih hended)
  | enter hname hlookup _ ih => exact .enter hname (h.lookup_of_not_leaf hlookup id) (ih hended)
  | atLink =>
      obtain ⟨-, hlink⟩ := placeAt_eq_occupied_iff.mp (Walk.ended.inj hended)
      exact (hlink ▸ h.leaf : IsLeaf (some (.link _))).elim
  | turn => cases hended
  | atLeaf hname _ =>
      cases eq_of_placeAt_eq (Walk.ended.inj hended)
      exact .atLeaf hname hleaf

theorem follows_placeAt {links : Nat} (hleaf : IsLeaf (changed.lookup location))
    (hfollow : Follows fs followLast links l steps (fs.placeAt location)) :
    Follows changed followLast links l steps (changed.placeAt location) := by
  generalize hplace : fs.placeAt location = place at hfollow
  induction hfollow with
  | direct hwalk =>
      subst hplace
      exact .direct (h.walks_placeAt hleaf hwalk)
  | linked hwalk _ ih => exact .linked (h.walks hwalk trivial) (ih hplace)

/-- A path to the changed location leads there as before if no walk goes on from there now. -/
theorem resolve_placeAt {p : Path} (hleaf : IsLeaf (changed.lookup location))
    (hplace : fs.resolve followLast p = .ok (fs.placeAt location)) :
    changed.resolve followLast p = .ok (changed.placeAt location) := by
  obtain ⟨husable, hfollow⟩ := resolve_eq_ok_iff.mp hplace
  refine resolve_eq_ok_iff.mpr ⟨husable, ?_⟩
  rw [h.workingDirectory]
  exact h.follows_placeAt hleaf hfollow

end LeafChange

/-! ### Ways that go on behind a directory -/

theorem walk_append (hwalk : Walks fs true l steps (.ended (.occupied d .directory))) (followLast : Bool)
    (more : List Path.Step) : fs.walk followLast l (steps ++ more) = fs.walk followLast d more := by
  generalize hplace : Walk.ended (.occupied d .directory) = ended at hwalk
  induction hwalk with
  | arrived => cases hplace; rfl
  | stay _ ih => exact ih hplace
  | up _ ih => exact ih hplace
  | enter hname hlookup _ ih => rw [List.cons_append, walk, if_neg (by omega), hlookup]; exact ih hplace
  | atLink _ _ hlast => cases hlast
  | turn => cases hplace
  | @atLeaf l name _ hleaf =>
      cases hlookup : fs.lookup (name :: l) with
      | none => rw [placeAt, hlookup] at hplace; cases hplace
      | some entry =>
          rw [placeAt, hlookup] at hplace
          cases hplace
          rw [hlookup] at hleaf
          exact hleaf.elim

theorem walks_append_linked {directory : Location} {target : Path} {rest more : List Path.Step}
    (hwalk : Walks fs true l steps (.linked directory target rest)) (followLast : Bool) (hmore : more ≠ []) :
    Walks fs followLast l (steps ++ more) (.linked directory target (rest ++ more)) := by
  generalize hturn : Walk.linked directory target rest = turned at hwalk
  induction hwalk with
  | arrived => cases hturn
  | stay _ ih => exact .stay (ih hturn)
  | up _ ih => exact .up (ih hturn)
  | enter hname hlookup _ ih => exact .enter hname hlookup (ih hturn)
  | atLink _ _ hlast => cases hlast
  | turn hname hlookup _ =>
      cases hturn
      exact .turn hname hlookup (Or.inr (List.append_ne_nil_of_right_ne_nil _ hmore))
  | atLeaf => cases hturn

/-- Behind a directory a path goes on from there, with the links that are left. -/
theorem follow_append {links : Nat} {more : List Path.Step}
    (hfollow : Follows fs true links l steps (.occupied d .directory)) (followLast : Bool) (hmore : more ≠ []) :
    ∃ left, fs.follow followLast links l (steps ++ more) = fs.follow followLast left d more := by
  generalize hplace : Place.occupied d .directory = place at hfollow
  induction hfollow with
  | @direct links _ _ _ hwalk =>
      cases hplace
      refine ⟨links, ?_⟩
      cases links <;> rw [follow, follow, walk_append hwalk]
  | linked hwalk _ ih =>
      obtain ⟨left, hleft⟩ := ih hplace
      refine ⟨left, ?_⟩
      rw [follow, walk_of_walks (walks_append_linked hwalk followLast hmore)]
      simp only [← List.append_assoc]
      exact hleft

/-- A step that stays makes no difference to a walk that goes on, but that it may be left at a link. -/
theorem walk_insert_stay {more : List Path.Step} (hmore : more ≠ []) (l : Location) (steps : List Path.Step) :
    (∃ directory target rest, fs.walk followLast l (steps ++ .stay :: more) =
        .ok (.linked directory target (rest ++ .stay :: more)) ∧
      fs.walk followLast l (steps ++ more) = .ok (.linked directory target (rest ++ more))) ∨
    fs.walk followLast l (steps ++ .stay :: more) = fs.walk followLast l (steps ++ more) := by
  induction steps generalizing l with
  | nil => exact Or.inr rfl
  | cons step steps ih =>
      cases step with
      | stay => exact ih l
      | up => exact ih l.tail
      | down name =>
          have hstay : (steps ++ Path.Step.stay :: more).isEmpty = false := by
            rw [List.isEmpty_eq_false_iff]
            exact List.append_ne_nil_of_right_ne_nil _ (List.cons_ne_nil _ _)
          have hgo : (steps ++ more).isEmpty = false := by
            rw [List.isEmpty_eq_false_iff]
            exact List.append_ne_nil_of_right_ne_nil _ hmore
          rw [List.cons_append, List.cons_append, walk, walk]
          simp only [hstay, hgo, Bool.false_and, Bool.false_eq_true, if_false]
          split
          · exact Or.inr rfl
          · split
            · exact ih _
            · exact Or.inl ⟨_, _, steps, rfl, rfl⟩
            · exact Or.inr rfl
            · exact Or.inr rfl

theorem follow_insert_stay {more : List Path.Step} (hmore : more ≠ []) (links : Nat) (l : Location)
    (steps : List Path.Step) :
    fs.follow followLast links l (steps ++ .stay :: more) = fs.follow followLast links l (steps ++ more) := by
  induction links generalizing l steps with
  | zero =>
      rw [follow, follow]
      rcases walk_insert_stay hmore l steps with ⟨directory, target, rest, hstay, hgo⟩ | heq
      · rw [hstay, hgo]
      · rw [heq]
  | succ links ih =>
      rw [follow, follow]
      rcases walk_insert_stay hmore l steps with ⟨directory, target, rest, hstay, hgo⟩ | heq
      · rw [hstay, hgo]
        simp only [← List.append_assoc]
        exact ih _ _
      · rw [heq]

/-- One step to something that is no link. -/
theorem follow_name {name : String} (hlink : ∀ target, fs.lookup (name :: d) ≠ some (.link target))
    (followLast : Bool) (left : Nat) :
    fs.follow followLast left d [.down name] =
      if nameLimit < name.utf8ByteSize then .error .nameTooLong else .ok (fs.placeAt (name :: d)) := by
  by_cases hlong : nameLimit < name.utf8ByteSize
  · cases left <;> rw [follow, walk, if_pos hlong, if_pos hlong]
  · rw [if_neg hlong]
    apply follow_of_follows
    apply Follows.direct
    cases hlookup : fs.lookup (name :: d) with
    | none => exact .atLeaf (by omega) (by rw [hlookup]; trivial)
    | some entry =>
        cases entry with
        | directory =>
            have hplace : fs.placeAt (name :: d) = .occupied (name :: d) .directory := by rw [placeAt, hlookup]
            rw [hplace]
            exact .enter (by omega) hlookup .arrived
        | link target => exact absurd hlookup (hlink target)
        | _ => exact .atLeaf (by omega) (by rw [hlookup]; trivial)

/-- The texts of the path of an entry and of its name are within the limits. -/
def Fits (dir : Path) (name : String) : Prop :=
  ¬(pathLimit ≤ (dir.join ⟨name⟩).text.utf8ByteSize ∨ nameLimit < name.utf8ByteSize)

instance (dir : Path) (name : String) : Decidable (Fits dir name) := inferInstanceAs (Decidable (¬_))

/-- Where the path of an entry in a directory leads if the entry is no link. -/
theorem resolve_join {dir : Path} (hdir : fs.resolve true dir = .ok (.occupied d .directory)) {name : String}
    (hname : Path.IsName name) (hlink : ∀ target, fs.lookup (name :: d) ≠ some (.link target)) (followLast : Bool) :
    fs.resolve followLast (dir.join ⟨name⟩) =
      if Fits dir name then .ok (fs.placeAt (name :: d)) else .error .nameTooLong := by
  obtain ⟨husable, hfollow⟩ := resolve_eq_ok_iff.mp hdir
  have hjoin := Path.toList_join dir hname.no_slash
  have hnul : ¬(dir.join ⟨name⟩).text.toList.contains '\x00' = true := by
    rw [hjoin, List.contains_iff_mem, List.mem_append]
    rintro (hfront | hmem)
    · rcases Path.mem_front hfront with hmem | heq
      · exact husable.no_nul (List.contains_iff_mem.mpr hmem)
      · exact absurd heq (by decide)
    · exact hname.no_nul hmem
  have hempty : ¬(dir.join ⟨name⟩).text.isEmpty = true := by
    rw [String.isEmpty_iff, ← String.toList_eq_nil_iff]
    exact (Path.endsInSegment_join dir hname).1
  have hstart : start fs.workingDirectory (dir.join ⟨name⟩) = start fs.workingDirectory dir := by
    rw [start, start, Path.isAbsolute_join dir hname.no_slash]
  have hmore : [Path.Step.down name] ≠ [] := List.cons_ne_nil _ _
  obtain ⟨left, hleft⟩ : ∃ left,
      fs.follow followLast linkLimit (start fs.workingDirectory dir) (dir.base ++ [.down name]) =
        fs.follow followLast left d [.down name] := by
    rcases dir.steps_eq_base_or with hsteps | hsteps
    · rw [← hsteps]
      exact follow_append hfollow followLast hmore
    · rw [← follow_insert_stay hmore, List.append_cons, ← hsteps]
      exact follow_append hfollow followLast hmore
  rw [resolve, if_neg hnul, if_neg hempty, hstart, Path.steps_join dir hname, hleft, follow_name hlink]
  by_cases hlong : pathLimit ≤ (dir.join ⟨name⟩).text.utf8ByteSize
  · have hfits : ¬Fits dir name := fun hfits => hfits (Or.inl hlong)
    rw [if_pos hlong, if_neg hfits]
  · by_cases hbytes : nameLimit < name.utf8ByteSize
    · have hfits : ¬Fits dir name := fun hfits => hfits (Or.inr hbytes)
      rw [if_neg hlong, if_pos hbytes, if_neg hfits]
    · have hfits : Fits dir name := not_or.mpr ⟨hlong, hbytes⟩
      rw [if_neg hlong, if_neg hbytes, if_pos hfits]

theorem ne_link_of_file {content : Content} (h : fs.lookup l = some (.file content)) (target : String) :
    fs.lookup l ≠ some (.link target) := by
  intro hlink
  rw [h] at hlink
  cases hlink

/-- What a path in a directory leads to is the entry there if the entry is no link. -/
theorem eq_of_resolve_join {dir : Path} (hdir : fs.resolve true dir = .ok (.occupied d .directory)) {name : String}
    (hname : Path.IsName name) (hlink : ∀ target, fs.lookup (name :: d) ≠ some (.link target)) {entry : Entry}
    (hleads : fs.resolve followLast (dir.join ⟨name⟩) = .ok (.occupied l entry)) :
    name :: d = l ∧ fs.lookup (name :: d) = some entry := by
  rw [resolve_join hdir hname hlink] at hleads
  split at hleads
  · exact placeAt_eq_occupied_iff.mp (Except.ok.inj hleads)
  · cases hleads

end FileSystem

end Occupancy
