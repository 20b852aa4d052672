import Mathlib.Data.List.Lex
import Occupancy.Proofs.Path

/-! The order of paths. Paths are compared component by component, and names in them byte by byte. The bytes of texts are in
the order of their characters, so entries of one directory are in the order of their names, whatever the path of the
directory is. -/

namespace Occupancy.Path

/-! ### Components -/

/-- What is left of a path when it is cut at its slashes and idle segments are left out. -/
inductive Component
  | root
  | stay
  | up
  | name (text : String)
deriving Repr, DecidableEq

namespace Component

/-- The kinds of components in their order. -/
def kind : Component → Nat
  | root => 0
  | stay => 1
  | up => 2
  | name _ => 3

/-- The bytes of a name; other components have none. -/
def bytes : Component → List UInt8
  | name text => Text.utf8 text.toList
  | _ => []

/-- Components are compared by their kinds, and names by their bytes. -/
def Before (a b : Component) : Prop := a.kind < b.kind ∨ a.kind = b.kind ∧ a.bytes < b.bytes

theorem Before.asymm {a b : Component} (h : a.Before b) : ¬b.Before a := by
  rcases h with hkind | ⟨hkind, hbytes⟩
  · rintro (hother | ⟨hother, -⟩) <;> omega
  · rintro (hother | ⟨-, hother⟩)
    · omega
    · exact List.lt_asymm hbytes hother

end Component

def componentOf (segment : List Char) : Option Component :=
  match stepOf segment with
  | some (.down name) => some (.name name)
  | some .up => some .up
  | _ => none

/-- The components of a path. The directory that a path is seen from is one of them only if the path begins with it. -/
def components (p : Path) : List Component :=
  (if p.isAbsolute then [.root] else if p.segments.head? = some ['.'] then [.stay] else []) ++
    p.segments.filterMap componentOf

/-- The order of paths: that of their first components that are different, a path being before those that it begins. -/
def Before (p q : Path) : Prop := List.Lex Component.Before p.components q.components

theorem Before.asymm {p q : Path} (h : p.Before q) : ¬q.Before p :=
  List.lex_asymm (fun hab => hab.asymm) h

theorem head?_segments_join (dir : Path) {name : String} (hname : IsName name) :
    (dir.join ⟨name⟩).segments.head? = some ['.'] ↔ dir.segments.head? = some ['.'] := by
  rcases segments_join dir hname.no_slash with ⟨hdir, hjoin⟩ | ⟨named, hnamed, hjoin, hdir | hdir⟩
  · rw [hdir, hjoin]
    exact ⟨fun h => absurd (Option.some.inj h) hname.not_stay, nofun⟩
  · rw [hdir, hjoin, List.head?_append_of_ne_nil _ hnamed]
  · rw [hdir, hjoin, List.head?_append_of_ne_nil _ hnamed, List.head?_append_of_ne_nil _ hnamed]

/-- The path of an entry has one component more than that of the directory. -/
theorem components_join (dir : Path) {name : String} (hname : IsName name) :
    (dir.join ⟨name⟩).components = dir.components ++ [.name name] := by
  have hcomponent : componentOf name.toList = some (.name name) := by rw [componentOf, stepOf_name hname]
  simp only [components, isAbsolute_join dir hname.no_slash, head?_segments_join dir hname,
    filterMap_segments_join dir hname.no_slash rfl hcomponent, List.append_assoc]

/-- Entries of one directory are in the order of their names. -/
theorem join_before_join (dir : Path) {name other : String} (hname : IsName name) (hother : IsName other)
    (h : name < other) : (dir.join ⟨name⟩).Before (dir.join ⟨other⟩) := by
  rw [Before, components_join dir hname, components_join dir hother]
  apply List.Lex.append_left
  exact .rel (Or.inr ⟨rfl, Text.utf8_lt h⟩)

end Occupancy.Path
