import Occupancy.Proofs.Json.Grammar

/-! The compact text of a value is one of the forms of what the value says. -/

namespace Occupancy.Json

open Ascii Text

mutual

/-- What a value says. -/
def tree : Json → Tree
  | null => .null
  | boolean value => .boolean value
  | integer (.ofNat n) => .natural n
  | integer (.negSucc _) => .number
  | string s => .string s
  | list items => .list (itemTrees items)
  | object members => .object (memberTrees members)

def itemTrees : List Json → List Tree
  | [] => []
  | item :: items => tree item :: itemTrees items

def memberTrees : List (String × Json) → List (String × Tree)
  | [] => []
  | (key, value) :: members => (key, tree value) :: memberTrees members

end

/-- What is behind the bracket of a list that is not empty may stand behind a comma. -/
theorem Writes.items_of_list {v : Tree} {vs : List Tree} {s : List UInt8}
    (h : Writes (.value (.list (v :: vs))) (openBracket :: s)) : Writes (.items (v :: vs)) (comma :: s) := by
  cases h with
  | list hblanks hfirst hrest => exact .itemsNext areBlanks_nil hblanks hfirst hrest

theorem Writes.members_of_object {m : String × Tree} {ms : List (String × Tree)} {s : List UInt8}
    (h : Writes (.value (.object (m :: ms))) (openBrace :: s)) : Writes (.members (m :: ms)) (comma :: s) := by
  cases h with
  | object hblanks hfirst hrest => exact .membersNext areBlanks_nil hblanks hfirst hrest

theorem utf8_integer_negative (n : Nat) :
    utf8 (text (.integer (.negSucc n))).toList = minus :: (digits (n + 1) ++ []) := by
  have htext : text (.integer (.negSucc n)) = "-" ++ (n + 1).repr := rfl
  rw [htext, String.toList_append, utf8_append, Nat.toList_repr, List.append_nil]
  rfl

/-- A member as it is written is one of its forms. -/
theorem writes_member (key : String) {v : Tree} {text : String} (h : Writes (.value v) (utf8 text.toList)) :
    Writes (.member key v) (utf8 (stringText key ++ ":" ++ text).toList) := by
  have hmember := Writes.member (spellsAll_escaped key.toList) areBlanks_nil areBlanks_nil h
  have hcolon : utf8 ":".toList = [Ascii.colon] := rfl
  rw [String.toList_append, String.toList_append, utf8_append, utf8_append, hcolon, utf8_stringText,
    List.append_assoc, List.cons_append, List.append_assoc]
  exact hmember

/-- Two texts with a comma between them. -/
theorem utf8_comma (front back : String) :
    utf8 (front ++ "," ++ back).toList = utf8 front.toList ++ comma :: utf8 back.toList := by
  have hcomma : utf8 ",".toList = [comma] := rfl
  rw [String.toList_append, String.toList_append, utf8_append, utf8_append, hcomma, List.append_assoc]
  rfl

mutual

theorem writes_text : (value : Json) → Writes (.value value.tree) (utf8 value.text.toList)
  | null => .nullWord
  | boolean true => .trueWord
  | boolean false => .falseWord
  | integer (.ofNat n) => utf8_integer n ▸ .natural n
  | integer (.negSucc n) => utf8_integer_negative n ▸ .negative (n + 1) (.mk .absent .absent)
  | string s => by
      rw [text, utf8_stringText]
      exact .string (spellsAll_escaped s.toList)
  | list items => by
      have hlist := writes_itemsText items
      rw [text, String.toList_append, String.toList_append, utf8_append, utf8_append]
      exact hlist
  | object members => by
      have hobject := writes_membersText members
      rw [text, String.toList_append, String.toList_append, utf8_append, utf8_append]
      exact hobject

theorem writes_itemsText : (items : List Json) →
    Writes (.value (.list (itemTrees items))) (openBracket :: (utf8 (itemsText items).toList ++ [closeBracket]))
  | [] => .emptyList areBlanks_nil
  | [item] => .list areBlanks_nil (writes_text item) (.itemsEnd areBlanks_nil)
  | item :: next :: items => by
      have hrest := (writes_itemsText (next :: items)).items_of_list
      have hlist := Writes.list areBlanks_nil (writes_text item) hrest
      simp only [itemsText, utf8_comma, List.append_assoc, List.cons_append]
      exact hlist

theorem writes_membersText : (members : List (String × Json)) →
    Writes (.value (.object (memberTrees members))) (openBrace :: (utf8 (membersText members).toList ++ [closeBrace]))
  | [] => .emptyObject areBlanks_nil
  | [(key, value)] => by
      have hobject := Writes.object areBlanks_nil (writes_member key (writes_text value)) (.membersEnd areBlanks_nil)
      simp only [List.nil_append] at hobject
      rw [membersText]
      exact hobject
  | (key, value) :: (next, nextValue) :: members => by
      have hrest := (writes_membersText ((next, nextValue) :: members)).members_of_object
      have hobject := Writes.object areBlanks_nil (writes_member key (writes_text value)) hrest
      simp only [List.nil_append] at hobject
      simp only [membersText, utf8_comma, List.append_assoc, List.cons_append]
      exact hobject

end

end Occupancy.Json
