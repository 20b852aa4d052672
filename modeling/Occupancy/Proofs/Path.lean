import Occupancy.Path
import Occupancy.Proofs.Text.Utf8

/-! Paths of entries in a directory. Joining a plain name to the path of a directory adds one step to the way and
nothing else, and different names give different paths. -/

namespace Occupancy.Path

/-- A text that can be the name of an entry: not empty, not a step to another place, and in one segment. -/
structure IsName (name : String) : Prop where
  nonempty : name.toList ≠ []
  not_stay : name.toList ≠ ['.']
  not_up : name.toList ≠ ['.', '.']
  no_slash : '/' ∉ name.toList
  no_nul : '\x00' ∉ name.toList

instance (name : String) : Decidable (IsName name) :=
  decidable_of_iff
    (name.toList ≠ [] ∧ name.toList ≠ ['.'] ∧ name.toList ≠ ['.', '.'] ∧ '/' ∉ name.toList ∧ '\x00' ∉ name.toList)
    ⟨fun ⟨hnonempty, hstay, hup, hslash, hnul⟩ => ⟨hnonempty, hstay, hup, hslash, hnul⟩,
      fun h => ⟨h.nonempty, h.not_stay, h.not_up, h.no_slash, h.no_nul⟩⟩

/-- A path with a last segment: something behind its last slash. -/
def EndsInSegment (p : Path) : Prop := p.text.toList ≠ [] ∧ p.text.toList.getLast? ≠ some '/'

theorem not_isAbsolute_of_no_slash {name : String} (h : '/' ∉ name.toList) :
    (Path.mk name).isAbsolute = false := by
  rw [isAbsolute, beq_eq_false_iff_ne]
  intro hhead
  exact h (List.mem_of_mem_head? hhead)

/-- What stands in front of a name that is joined to a path: the path, with a slash unless it ends in one or is empty. -/
def front (dir : Path) : List Char :=
  if dir.text.toList.getLast?.all (· == '/') then dir.text.toList else dir.text.toList ++ ['/']

theorem toList_join (dir : Path) {name : String} (hname : '/' ∉ name.toList) :
    (dir.join ⟨name⟩).text.toList = dir.front ++ name.toList := by
  rw [join, not_isAbsolute_of_no_slash hname, if_neg Bool.false_ne_true, front]
  split
  · rw [String.toList_append]
  · rw [String.toList_append, String.toList_append]
    rfl

/-- The bytes in front of a name are the same for every name. -/
theorem utf8ByteSize_join (dir : Path) {name : String} (hname : '/' ∉ name.toList) :
    (dir.join ⟨name⟩).text.utf8ByteSize = (Text.utf8 dir.front).length + name.utf8ByteSize := by
  rw [← Text.length_utf8, toList_join dir hname, Text.utf8_append, List.length_append, Text.length_utf8]

theorem join_injective (dir : Path) {name other : String} (hname : '/' ∉ name.toList) (hother : '/' ∉ other.toList)
    (h : dir.join ⟨name⟩ = dir.join ⟨other⟩) : name = other := by
  have htext := congrArg (fun p : Path => p.text.toList) h
  simp only [toList_join dir hname, toList_join dir hother] at htext
  exact String.toList_inj.mp (List.append_cancel_left htext)

/-- Unless it is empty, the path is what stands before the last slash of its front, or that slash included. -/
theorem front_cases (dir : Path) :
    dir.front = [] ∧ dir.text.toList = [] ∨
      ∃ body, dir.front = body ++ ['/'] ∧
        (dir.text.toList = body ++ ['/'] ∨ dir.text.toList = body ∧ dir.EndsInSegment) := by
  by_cases hempty : dir.text.toList = []
  · refine Or.inl ⟨?_, hempty⟩
    rw [front, hempty]
    rfl
  · right
    by_cases hslash : dir.text.toList.getLast? = some '/'
    · obtain ⟨body, hbody⟩ := List.getLast?_eq_some_iff.mp hslash
      refine ⟨body, ?_, Or.inl hbody⟩
      rw [front, hslash, if_pos (by rfl), hbody]
    · have hlast : ¬dir.text.toList.getLast?.all (· == '/') = true := by
        rw [List.getLast?_eq_some_getLast hempty, Option.all_some, beq_iff_eq]
        intro heq
        exact hslash (by rw [List.getLast?_eq_some_getLast hempty, heq])
      exact ⟨dir.text.toList, by rw [front, if_neg hlast], Or.inr ⟨rfl, hempty, hslash⟩⟩

/-- Nothing but slashes comes in front of a name in addition to the path. -/
theorem mem_front {dir : Path} {c : Char} (h : c ∈ dir.front) : c ∈ dir.text.toList ∨ c = '/' := by
  rw [front] at h
  split at h
  · exact Or.inl h
  · rw [List.mem_append, List.mem_singleton] at h
    exact h

theorem stepOf_name {name : String} (h : IsName name) : stepOf name.toList = some (.down name) := by
  unfold stepOf
  split
  · exact absurd ‹_› h.nonempty
  · exact absurd ‹_› h.not_stay
  · exact absurd ‹_› h.not_up
  · rw [String.ofList_toList]

theorem getLast?_append_name (front : List Char) {name : String} (hname : IsName name) :
    (front ++ name.toList).getLast? ≠ some '/' := by
  rw [List.getLast?_append, List.getLast?_eq_some_getLast hname.nonempty, Option.some_or]
  intro heq
  exact hname.no_slash (Option.some.inj heq ▸ List.getLast_mem hname.nonempty)

/-- The steps along a path without the one that asks for a directory. -/
def base (p : Path) : List Step := p.segments.filterMap stepOf

theorem steps_eq_base_or (p : Path) : p.steps = p.base ∨ p.steps = p.base ++ [.stay] := by
  rw [steps, ← base]
  split
  · exact Or.inr rfl
  · exact Or.inl (List.append_nil _)

/-- The segments of a name that is joined to a path: those of the path, without the empty one behind a slash at its end, and
the name. -/
theorem segments_join (dir : Path) {name : String} (hname : '/' ∉ name.toList) :
    dir.segments = [[]] ∧ (dir.join ⟨name⟩).segments = [name.toList] ∨
      ∃ named, named ≠ [] ∧ (dir.join ⟨name⟩).segments = named ++ [name.toList] ∧
        (dir.segments = named ∨ dir.segments = named ++ [[]]) := by
  rw [segments, segments, toList_join dir hname]
  rcases dir.front_cases with ⟨hfront, hempty⟩ | ⟨body, hfront, hdir⟩
  · rw [hfront, List.nil_append, hempty, List.splitOn_eq_singleton hname]
    exact Or.inl ⟨rfl, rfl⟩
  · refine Or.inr ⟨body.splitOn '/', List.splitOn_ne_nil _ _, ?_, ?_⟩
    · rw [hfront, List.append_assoc, List.singleton_append, List.splitOn_append_cons_self,
        List.splitOn_eq_singleton hname]
    · rcases hdir with hslash | ⟨hbody, -⟩
      · rw [hslash, List.splitOn_append_cons_self]
        exact Or.inr rfl
      · rw [hbody]
        exact Or.inl rfl

/-- What is read off the segments one by one, and not off empty ones, is that of the path and that of the name. -/
theorem filterMap_segments_join {α : Type} {f : List Char → Option α} {a : α} (dir : Path) {name : String}
    (hname : '/' ∉ name.toList) (hempty : f [] = none) (ha : f name.toList = some a) :
    (dir.join ⟨name⟩).segments.filterMap f = dir.segments.filterMap f ++ [a] := by
  have hlast : [name.toList].filterMap f = [a] := by rw [List.filterMap_cons, ha, List.filterMap_nil]
  have hnone : [[]].filterMap f = [] := by rw [List.filterMap_cons, hempty, List.filterMap_nil]
  rcases segments_join dir hname with ⟨hdir, hjoin⟩ | ⟨named, -, hjoin, hdir | hdir⟩
  · rw [hdir, hjoin, hlast, hnone, List.nil_append]
  · rw [hdir, hjoin, List.filterMap_append, hlast]
  · rw [hdir, hjoin, List.filterMap_append, List.filterMap_append, hlast, hnone, List.append_nil]

/-- An entry in a directory is one step behind it. -/
theorem steps_join (dir : Path) {name : String} (hname : IsName name) :
    (dir.join ⟨name⟩).steps = dir.base ++ [.down name] := by
  have hlast : (dir.join ⟨name⟩).text.toList.getLast? ≠ some '/' := by
    rw [toList_join dir hname.no_slash]
    exact getLast?_append_name _ hname
  rw [steps, if_neg hlast, List.append_nil, base]
  exact filterMap_segments_join dir hname.no_slash rfl (stepOf_name hname)

theorem isAbsolute_join (dir : Path) {name : String} (hname : '/' ∉ name.toList) :
    (dir.join ⟨name⟩).isAbsolute = dir.isAbsolute := by
  rw [isAbsolute, isAbsolute, toList_join dir hname]
  rcases dir.front_cases with ⟨hfront, hempty⟩ | ⟨body, hfront, hslash | ⟨rfl, hsegment⟩⟩
  · rw [hfront, List.nil_append, hempty]
    exact not_isAbsolute_of_no_slash hname
  · have hnonempty : body ++ ['/'] ≠ [] := List.append_ne_nil_of_right_ne_nil _ (List.cons_ne_nil _ _)
    rw [hfront, hslash, List.head?_append, List.head?_eq_some_head hnonempty, Option.some_or]
  · rw [hfront, List.append_assoc, List.head?_append, List.head?_eq_some_head hsegment.1, Option.some_or]

/-- Joining a name gives a path with a last segment. -/
theorem endsInSegment_join (dir : Path) {name : String} (hname : IsName name) :
    (dir.join ⟨name⟩).EndsInSegment := by
  refine ⟨?_, ?_⟩ <;> rw [toList_join dir hname.no_slash]
  · exact List.append_ne_nil_of_right_ne_nil _ hname.nonempty
  · exact getLast?_append_name _ hname

end Occupancy.Path
