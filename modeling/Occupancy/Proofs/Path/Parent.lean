import Mathlib.Data.List.DropRight
import Occupancy.Proofs.Path.Order

/-! Parents of paths. A path is its lead, which is the root or the directory it is seen from or nothing, and the segments
behind it. The parent has the same lead and the segments before the last one that is not idle, and so all components of the
path but the last. In particular the parent of the path of an entry has the components of the directory that it is in. -/

namespace Occupancy.Path

variable {p : Path} {lead segment : List Char} {body : List (List Char)}

/-! ### Segments -/

theorem not_mem_of_mem_splitOn {text : List Char} (h : segment ∈ text.splitOn '/') : '/' ∉ segment := by
  induction text generalizing segment with
  | nil =>
      rw [List.splitOn_nil, List.mem_singleton] at h
      rw [h]
      exact List.not_mem_nil
  | cons x text ih =>
      rw [List.splitOn_cons_eq_if_modifyHead] at h
      split at h
      · rcases List.mem_cons.mp h with rfl | hlater
        · exact List.not_mem_nil
        · exact ih hlater
      · rename_i hx
        cases hsplit : text.splitOn '/' with
        | nil => exact absurd hsplit (List.splitOn_ne_nil _ _)
        | cons first rest =>
            rw [hsplit] at h ih
            rcases List.mem_cons.mp h with rfl | hlater
            · rintro (_ | ⟨_, hmem⟩)
              · exact hx (beq_self_eq_true _)
              · exact ih List.mem_cons_self hmem
            · exact ih (List.mem_cons_of_mem _ hlater)

theorem componentOf_eq_none_iff : componentOf segment = none ↔ isIdle segment = true := by
  rw [componentOf]
  fun_cases stepOf segment with
  | case1 => exact iff_of_true rfl rfl
  | case2 => exact iff_of_true rfl rfl
  | case3 =>
      constructor <;>
        · intro h
          cases h
  | case4 segment hempty hstay hup =>
      constructor
      · intro h
        cases h
      · intro h
        rw [isIdle, Bool.or_eq_true, beq_iff_eq, beq_iff_eq] at h
        rcases h with h | h
        · exact (hempty h).elim
        · exact (hstay h).elim

theorem prefix_dropIdleEnd (body : List (List Char)) : dropIdleEnd body <+: body := List.rdropWhile_prefix isIdle body

/-- Idle segments at the end are no components. -/
theorem filterMap_dropIdleEnd (body : List (List Char)) :
    (dropIdleEnd body).filterMap componentOf = body.filterMap componentOf := by
  show (body.rdropWhile isIdle).filterMap componentOf = _
  induction body using List.reverseRecOn with
  | nil => rfl
  | append_singleton body segment ih =>
      by_cases hidle : isIdle segment = true
      · rw [List.rdropWhile_concat_pos _ _ _ hidle, ih, List.filterMap_append,
          List.filterMap_cons_none (componentOf_eq_none_iff.mpr hidle), List.filterMap_nil, List.append_nil]
      · rw [List.rdropWhile_concat_neg _ _ _ hidle]

/-- The last of the segments that are left is a component. -/
theorem exists_of_dropIdleEnd_ne_nil (h : dropIdleEnd body ≠ []) :
    ∃ last c, dropIdleEnd body = (dropIdleEnd body).dropLast ++ [last] ∧ componentOf last = some c := by
  have hlast := List.rdropWhile_last_not isIdle body h
  rw [← componentOf_eq_none_iff] at hlast
  obtain ⟨c, hc⟩ := Option.ne_none_iff_exists'.mp hlast
  exact ⟨_, c, (List.dropLast_append_getLast h).symm, hc⟩

/-! ### Leads -/

/-- The components of a lead. -/
def leadComponents : List Char → List Component
  | ['/'] => [.root]
  | ['.'] => [.stay]
  | _ => []

/-- Segments that can stand behind a lead, so that the path of both has this lead. -/
inductive Behind : List Char → List (List Char) → Prop
  | root {body : List (List Char)} (hbody : body ≠ []) : Behind ['/'] body
  | seenFrom (body : List (List Char)) : Behind ['.'] ([] :: body)
  | empty : Behind [] [[]]
  | plain {segment : List Char} (body : List (List Char)) (hsome : segment ≠ []) (hstay : segment ≠ ['.']) :
      Behind [] (segment :: body)

theorem Behind.ne_nil (h : Behind lead body) : body ≠ [] := by
  cases h with
  | root hbody => exact hbody
  | _ => exact List.cons_ne_nil _ _

/-- No segment is as good as an empty one. -/
theorem Behind.nothing (h : Behind lead body) : Behind lead [[]] := by
  cases h with
  | root => exact .root (List.cons_ne_nil _ _)
  | seenFrom => exact .seenFrom []
  | empty => exact .empty
  | plain => exact .empty

theorem Behind.of_front {named : List (List Char)} (h : Behind lead body) (hfront : named <+: body)
    (hsome : named ≠ []) : Behind lead named := by
  obtain ⟨first, rest, rfl⟩ := List.exists_cons_of_ne_nil hsome
  cases h with
  | root => exact .root hsome
  | seenFrom =>
      obtain ⟨rfl, -⟩ := List.cons_prefix_cons.mp hfront
      exact .seenFrom rest
  | empty =>
      obtain ⟨rfl, hrest⟩ := List.cons_prefix_cons.mp hfront
      rw [List.prefix_nil.mp hrest]
      exact .empty
  | plain _ hfirst hstay =>
      obtain ⟨rfl, -⟩ := List.cons_prefix_cons.mp hfront
      exact .plain rest hfirst hstay

/-- The components of a path are those of its lead and those behind it. -/
theorem Behind.components_eq (h : Behind lead body) (hslash : ∀ segment ∈ body, '/' ∉ segment)
    (htext : p.text.toList = lead ++ ['/'].intercalate body) :
    p.components = leadComponents lead ++ body.filterMap componentOf := by
  have hsplit := List.splitOn_intercalate '/' hslash h.ne_nil
  cases h with
  | root =>
      have habsolute : p.isAbsolute = true := by rw [isAbsolute, htext]; rfl
      have hsegments : p.segments = [] :: body := by
        rw [segments, htext, List.singleton_append, ← List.nil_append ('/' :: _), List.splitOn_append_cons_self,
          hsplit, List.splitOn_nil, List.singleton_append]
      rw [components, if_pos habsolute, hsegments]
      rfl
  | seenFrom body =>
      have hjoin : ['.'] ++ ['/'].intercalate ([] :: body) = ['/'].intercalate (['.'] :: body) := by cases body <;> rfl
      have habsolute : p.isAbsolute = false := by rw [isAbsolute, htext]; rfl
      have hsegments : p.segments = ['.'] :: body := by
        rw [segments, htext, hjoin]
        apply List.splitOn_intercalate _ _ (List.cons_ne_nil _ _)
        exact List.forall_mem_cons.mpr ⟨by decide, (List.forall_mem_cons.mp hslash).2⟩
      rw [components, habsolute, hsegments]
      rfl
  | empty =>
      have hempty : p = ⟨""⟩ := by
        cases p
        exact congrArg Path.mk (String.toList_inj.mp htext)
      rw [hempty]
      rfl
  | @plain segment body hsome hstay =>
      obtain ⟨c, rest, rfl⟩ := List.exists_cons_of_ne_nil hsome
      have hc : c ≠ '/' := by
        rintro rfl
        exact hslash _ List.mem_cons_self List.mem_cons_self
      have habsolute : p.isAbsolute = false := by
        rw [isAbsolute, htext, beq_eq_false_iff_ne]
        intro hhead
        apply hc
        cases body <;> exact Option.some.inj hhead
      have hsegments : p.segments = (c :: rest) :: body := by rw [segments, htext, List.nil_append, hsplit]
      have hhead : p.segments.head? ≠ some ['.'] := by
        rw [hsegments]
        exact fun h => hstay (Option.some.inj h)
      rw [components, habsolute, if_neg Bool.false_ne_true, if_neg hhead, hsegments]
      rfl

/-- The segments behind the lead of a path. -/
def behindLead (p : Path) : List (List Char) := (p.text.toList.drop p.lead.length).splitOn '/'

theorem behind_lead (p : Path) : Behind p.lead p.behindLead ∧ p.text.toList = p.lead ++ ['/'].intercalate p.behindLead := by
  rw [behindLead, List.intercalate_splitOn]
  fun_cases lead p with
  | case1 rest htext =>
      rw [htext]
      exact ⟨.root (List.splitOn_ne_nil _ _), rfl⟩
  | case2 htext =>
      rw [htext]
      exact ⟨.seenFrom [], rfl⟩
  | case3 rest htext =>
      rw [htext]
      refine ⟨?_, rfl⟩
      show Behind ['.'] (('/' :: rest).splitOn '/')
      rw [← List.nil_append ('/' :: rest), List.splitOn_append_cons_self]
      exact .seenFrom _
  | case4 hroot hstay hseen =>
      refine ⟨?_, rfl⟩
      show Behind [] (p.text.toList.splitOn '/')
      have htext : ['/'].intercalate (p.text.toList.splitOn '/') = p.text.toList := List.intercalate_splitOn '/'
      obtain ⟨first, rest, hsplit⟩ := List.exists_cons_of_ne_nil (List.splitOn_ne_nil '/' p.text.toList)
      rw [hsplit] at htext ⊢
      cases rest with
      | nil =>
          rw [List.intercalate_singleton] at htext
          by_cases hempty : first = []
          · rw [hempty]
            exact .empty
          · apply Behind.plain _ hempty
            rintro rfl
            exact hstay htext.symm
      | cons second rest =>
          rw [List.intercalate_cons_cons] at htext
          apply Behind.plain
          · rintro rfl
            exact hroot _ htext.symm
          · rintro rfl
            exact hseen _ htext.symm

theorem components_eq (p : Path) : p.components = leadComponents p.lead ++ p.behindLead.filterMap componentOf :=
  (behind_lead p).1.components_eq (fun _ => not_mem_of_mem_splitOn) (behind_lead p).2

/-! ### Parents -/

/-- A path with the lead of another and some of its segments from the front. -/
theorem components_front {named : List (List Char)} (hfront : named <+: p.behindLead) :
    (Path.mk (String.ofList (p.lead ++ ['/'].intercalate named))).components =
      leadComponents p.lead ++ named.filterMap componentOf := by
  have hbehind := (behind_lead p).1
  have htext (kept : List (List Char)) :
      (String.ofList (p.lead ++ ['/'].intercalate kept)).toList = p.lead ++ ['/'].intercalate kept := String.toList_ofList
  by_cases hnone : named = []
  · rw [hnone]
    exact hbehind.nothing.components_eq (List.forall_mem_singleton.mpr List.not_mem_nil) (htext [])
  · apply (hbehind.of_front hfront hnone).components_eq _ (htext named)
    exact fun segment hmem => not_mem_of_mem_splitOn (hfront.subset hmem)

/-- A path whose last component is not the root has a parent, with the components in front of the last one. -/
theorem exists_parent? {front : List Component} {c : Component} (h : p.components = front ++ [c]) (hc : c ≠ .root) :
    ∃ parent, p.parent? = some parent ∧ parent.components = front := by
  rw [components_eq, ← filterMap_dropIdleEnd] at h
  rw [parent?, ← behindLead]
  split
  · -- the path is no more than its lead, which is then the directory that it is seen from
    rename_i hnone
    rw [hnone, List.filterMap_nil, List.append_nil] at h
    have hbehind := (behind_lead p).1
    generalize p.lead = lead, p.behindLead = body at hbehind h ⊢
    cases hbehind with
    | root =>
        have hlead : [] ++ [Component.root] = front ++ [c] := h
        exact absurd (List.singleton_inj.mp (List.append_inj' hlead rfl).2).symm hc
    | seenFrom =>
        have hlead : [] ++ [Component.stay] = front ++ [c] := h
        exact ⟨⟨""⟩, rfl, (List.append_inj' hlead rfl).1⟩
    | empty => exact absurd h.symm (List.append_ne_nil_of_right_ne_nil _ (List.cons_ne_nil _ _))
    | plain => exact absurd h.symm (List.append_ne_nil_of_right_ne_nil _ (List.cons_ne_nil _ _))
  · rename_i hsome
    obtain ⟨last, c', hlast, hc'⟩ := exists_of_dropIdleEnd_ne_nil hsome
    rw [hlast, List.filterMap_append, List.filterMap_cons_some hc', List.filterMap_nil, ← List.append_assoc] at h
    refine ⟨_, rfl, ?_⟩
    have hinit : (dropIdleEnd p.behindLead).dropLast <+: dropIdleEnd p.behindLead := List.dropLast_prefix _
    have hkept := (prefix_dropIdleEnd _).trans (hinit.trans (prefix_dropIdleEnd p.behindLead))
    rw [components_front hkept, filterMap_dropIdleEnd]
    exact (List.append_inj' h rfl).1

/-- The path of an entry has the directory that the entry is in as its parent. -/
theorem exists_parent?_join (dir : Path) {name : String} (hname : IsName name) :
    ∃ parent, (dir.join ⟨name⟩).parent? = some parent ∧ parent.components = dir.components :=
  exists_parent? (components_join dir hname) nofun

end Occupancy.Path
