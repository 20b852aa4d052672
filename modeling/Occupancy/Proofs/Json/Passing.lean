import Occupancy.Proofs.Json.Numeral

/-! Values are passed over. Whatever a value contains, the reader is behind it after as many rounds as it takes, with the
same lists and objects open as before, and it never runs out of fuel. -/

namespace Occupancy.Json

open Ascii

variable {s rest : List UInt8} {stack : List Frame}

/-- Passing over an item of a list or an object takes a number of rounds; then what is left of the fuel goes to what is
left of the text. -/
def PassedItem (frame : Frame) (rounds : Nat) (s : List UInt8) : Prop :=
  ∀ fuel stack rest, EndsLiteral rest →
    ∃ behind, frame.beforeValue (s ++ rest) = .ok behind ∧
      pass (rounds + fuel) .expecting stack behind = pass fuel .done stack rest

/-- The same for what closes a list or an object behind an item. -/
def PassedRest (frame : Frame) (rounds : Nat) (s : List UInt8) : Prop :=
  ∀ fuel stack rest, pass (rounds + fuel) .done (frame :: stack) (s ++ rest) = pass fuel .done stack rest

def PassedIn (rounds : Nat) (s : List UInt8) : Phrase → Prop
  | .value _ => PassedItem .list rounds s
  | .items _ => PassedRest .list rounds s
  | .member _ _ => PassedItem .object rounds s
  | .members _ => PassedRest .object rounds s

/-! ### Single rounds -/

theorem pass_expecting_blanks {blanks : List UInt8} (h : AreBlanks blanks) (fuel : Nat) (stack : List Frame)
    (s : List UInt8) : pass fuel .expecting stack (blanks ++ s) = pass fuel .expecting stack s := by
  cases fuel with
  | zero => rfl
  | succ fuel => rw [pass, pass, skipBlanks_append h]

theorem passToken_digit {b : UInt8} (h : isDigit b = true) (s : List UInt8) :
    passToken b s = (passNumber (b :: s)).map (.done, ·) := by
  have hne (c : UInt8) (hc : isDigit c = false) : b ≠ c := by
    rintro rfl
    rw [h] at hc
    cases hc
  rw [passToken, if_neg (hne lowerN (by decide)), if_neg (hne lowerT (by decide)), if_neg (hne lowerF (by decide)),
    if_neg (hne minus (by decide)), if_pos h]

/-- What is open is closed. -/
theorem passedRest_close (frame : Frame) {blanks : List UInt8} (h : AreBlanks blanks) :
    PassedRest frame 1 (blanks ++ [frame.closer]) := by
  intro fuel stack rest
  rw [List.append_assoc]
  cases frame <;>
    · rw [Nat.add_comm, pass, List.singleton_append, skipBlanks_append_cons h (by decide)]
      rfl

theorem pass_opened_close {frame : Frame} {blanks : List UInt8} (h : AreBlanks blanks) (fuel : Nat) :
    pass (1 + fuel) (.opened frame) stack (blanks ++ frame.closer :: rest) = pass fuel .done stack rest := by
  cases frame <;>
    · rw [Nat.add_comm, pass, skipBlanks_append_cons h (by decide)]
      exact if_pos rfl

/-- Behind a comma comes the next item. -/
theorem passedRest_next {frame : Frame} {before blanks first more : List UInt8} {n m : Nat} (hbefore : AreBlanks before)
    (hfirst : PassedItem frame n (blanks ++ first)) (hends : ∀ rest, EndsLiteral (more ++ rest))
    (hrest : PassedRest frame m more) :
    PassedRest frame (1 + n + m) (before ++ comma :: (blanks ++ (first ++ more))) := by
  intro fuel stack rest
  obtain ⟨behind, hitem, hpass⟩ := hfirst (m + fuel) (frame :: stack) (more ++ rest) (hends rest)
  calc
    pass (1 + n + m + fuel) .done (frame :: stack) (before ++ comma :: (blanks ++ (first ++ more)) ++ rest)
      = pass (n + (m + fuel) + 1) .done (frame :: stack)
          (before ++ comma :: (blanks ++ first ++ (more ++ rest))) := by
        rw [show 1 + n + m + fuel = n + (m + fuel) + 1 by omega]
        simp only [List.append_assoc, List.cons_append]
    _ = pass (n + (m + fuel)) .expecting (frame :: stack) behind := by
        rw [pass, skipBlanks_append_cons hbefore (by decide)]
        simp only [if_true, hitem, bind, Except.bind]
    _ = pass (m + fuel) .done (frame :: stack) (more ++ rest) := hpass
    _ = pass fuel .done stack rest := hrest fuel stack rest

/-- Behind an opening bracket or brace comes the first item. -/
theorem pass_opened_first (frame : Frame) {blanks first more : List UInt8} {n m : Nat} (hblanks : AreBlanks blanks)
    (hhead : ∃ b bs, first = b :: bs ∧ isBlank b = false ∧ b ≠ frame.closer) (hfirst : PassedItem frame n first)
    (hends : ∀ rest, EndsLiteral (more ++ rest)) (hrest : PassedRest frame m more) (fuel : Nat) :
    pass (1 + n + m + fuel) (.opened frame) stack (blanks ++ (first ++ more) ++ rest) = pass fuel .done stack rest := by
  obtain ⟨behind, hitem, hpass⟩ := hfirst (m + fuel) (frame :: stack) (more ++ rest) (hends rest)
  obtain ⟨b, bs, rfl, hb, hcloser⟩ := hhead
  calc
    pass (1 + n + m + fuel) (.opened frame) stack (blanks ++ (b :: bs ++ more) ++ rest)
      = pass (n + (m + fuel) + 1) (.opened frame) stack (blanks ++ b :: (bs ++ (more ++ rest))) := by
        rw [show 1 + n + m + fuel = n + (m + fuel) + 1 by omega]
        simp only [List.append_assoc, List.cons_append]
    _ = pass (n + (m + fuel)) .expecting (frame :: stack) behind := by
        rw [List.cons_append] at hitem
        rw [pass, skipBlanks_append_cons hblanks hb]
        simp only [hcloser, if_false, hitem, bind, Except.bind]
    _ = pass (m + fuel) .done (frame :: stack) (more ++ rest) := hpass
    _ = pass fuel .done stack rest := hrest fuel stack rest

theorem colon_eq {blanks : List UInt8} (h : AreBlanks blanks) (s : List UInt8) :
    colon (blanks ++ Ascii.colon :: s) = .ok s := by
  rw [colon, skipBlanks_append_cons h (by decide)]
  rfl

/-- Blanks in front of a value do not matter. -/
theorem PassedItem.blanks {n : Nat} (h : PassedItem .list n s) {blanks : List UInt8} (hblanks : AreBlanks blanks) :
    PassedItem .list n (blanks ++ s) := by
  intro fuel stack rest hrest
  obtain ⟨behind, hbehind, hpass⟩ := h fuel stack rest hrest
  cases hbehind
  refine ⟨blanks ++ s ++ rest, rfl, ?_⟩
  rw [List.append_assoc, pass_expecting_blanks hblanks]
  exact hpass

theorem PassedItem.blanks_member {n : Nat} (h : PassedItem .object n s) {blanks : List UInt8}
    (hblanks : AreBlanks blanks) : PassedItem .object n (blanks ++ s) := by
  intro fuel stack rest hrest
  obtain ⟨behind, hbehind, hpass⟩ := h fuel stack rest hrest
  refine ⟨behind, ?_, hpass⟩
  rw [List.append_assoc, ← hbehind]
  simp only [Frame.beforeValue, passKey, skipBlanks_append hblanks]

/-! ### Phrases -/

theorem passedItem_atom {b : UInt8} {more : List UInt8} (hb : isBlank b = false)
    (htoken : ∀ rest, EndsLiteral rest → passToken b (more ++ rest) = .ok (.done, rest)) :
    PassedItem .list 1 (b :: more) := by
  intro fuel stack rest hrest
  refine ⟨_, rfl, ?_⟩
  rw [Nat.add_comm, pass, List.cons_append, skipBlanks_cons hb]
  simp only [htoken rest hrest, bind, Except.bind]

theorem passedItem_literal (n : Nat) {ending : List UInt8} (hending : IsLiteralEnd ending) :
    PassedItem .list 1 (digits n ++ ending) := by
  obtain ⟨b, bs, hdigits, hb⟩ := isDigit_head_digits n
  rw [hdigits, List.cons_append]
  apply passedItem_atom (isBlank_of_isDigit hb)
  intro rest hrest
  have hnumber := passNumber_eq n hending hrest
  rw [← List.append_assoc, hdigits, List.cons_append, List.cons_append] at hnumber
  rw [passToken_digit hb, hnumber]
  rfl

/-- An opening bracket or brace takes one round. -/
theorem passedItem_opening {frame : Frame} {b : UInt8} {more : List UInt8} {n : Nat} (hb : isBlank b = false)
    (htoken : ∀ rest, passToken b rest = .ok (.opened frame, rest))
    (hmore : ∀ fuel stack rest, pass (n + fuel) (.opened frame) stack (more ++ rest) = pass fuel .done stack rest) :
    PassedItem .list (1 + n) (b :: more) := by
  intro fuel stack rest _
  refine ⟨_, rfl, ?_⟩
  rw [Nat.add_assoc, Nat.add_comm, pass, List.cons_append, skipBlanks_cons hb]
  simp only [htoken, bind, Except.bind]
  exact hmore fuel stack rest

/-- Every phrase is passed over in at most two rounds for each of its bytes. -/
theorem Writes.passedIn {phrase : Phrase} (h : Writes phrase s) :
    ∃ rounds ≤ 2 * s.length, PassedIn rounds s phrase := by
  induction h with
  | nullWord => exact ⟨1, by decide, passedItem_atom (by decide) fun _ _ => rfl⟩
  | trueWord => exact ⟨1, by decide, passedItem_atom (by decide) fun _ _ => rfl⟩
  | falseWord => exact ⟨1, by decide, passedItem_atom (by decide) fun _ _ => rfl⟩
  | natural n =>
      obtain ⟨b, bs, hdigits, -⟩ := isDigit_head_digits n
      refine ⟨1, by rw [hdigits, List.length_cons]; omega, ?_⟩
      have hliteral := passedItem_literal n (.mk .absent .absent)
      rw [List.append_nil, List.append_nil] at hliteral
      exact hliteral
  | real n hending hsome =>
      obtain ⟨b, bs, hdigits, -⟩ := isDigit_head_digits n
      exact ⟨1, by rw [hdigits, List.cons_append, List.length_cons]; omega, passedItem_literal n hending⟩
  | @negative n ending hending =>
      refine ⟨1, by rw [List.length_cons]; omega, passedItem_atom (by decide) ?_⟩
      intro rest hrest
      show (passNumber (digits n ++ ending ++ rest)).map _ = _
      rw [List.append_assoc, passNumber_eq n hending hrest]
      rfl
  | @string text forms hforms =>
      refine ⟨1, by rw [List.length_cons]; omega, passedItem_atom (by decide) ?_⟩
      intro rest _
      show (passQuoted (forms ++ [quoteMark] ++ rest)).map _ = _
      rw [List.append_assoc, List.singleton_append, passQuoted_spells hforms]
      rfl
  | @emptyList blanks hblanks =>
      refine ⟨1 + 1, by simp only [List.length_cons, List.length_append]; omega, ?_⟩
      apply passedItem_opening (by decide) (fun _ => rfl)
      intro fuel stack rest
      rw [List.append_assoc]
      exact pass_opened_close hblanks fuel
  | @list v vs blanks first rest hblanks hfirst hrest ihfirst ihrest =>
      obtain ⟨n, hn, hfirstPassed⟩ := ihfirst
      obtain ⟨m, hm, hrestPassed⟩ := ihrest
      refine ⟨1 + (1 + n + m), by simp only [List.length_cons, List.length_append]; omega, ?_⟩
      apply passedItem_opening (by decide) (fun _ => rfl)
      intro fuel stack behind
      obtain ⟨b, bs, heq, hbegins⟩ := hfirst.exists_head
      exact pass_opened_first .list hblanks ⟨b, bs, heq, hbegins.isBlank_eq_false⟩ hfirstPassed
        hrest.endsLiteral_items hrestPassed fuel
  | itemsEnd hblanks =>
      exact ⟨1, by simp only [List.length_cons, List.length_append]; omega, passedRest_close .list hblanks⟩
  | @itemsNext v vs before blanks first rest hbefore hblanks hfirst hrest ihfirst ihrest =>
      obtain ⟨n, hn, hfirstPassed⟩ := ihfirst
      obtain ⟨m, hm, hrestPassed⟩ := ihrest
      exact ⟨1 + n + m, by simp only [List.length_cons, List.length_append]; omega,
        passedRest_next hbefore (hfirstPassed.blanks hblanks) hrest.endsLiteral_items hrestPassed⟩
  | @member key v forms before blanks text hkey hbefore hblanks _ ih =>
      obtain ⟨n, hn, hpassed⟩ := ih
      refine ⟨n, by simp only [List.length_cons, List.length_append]; omega, ?_⟩
      intro fuel stack rest hrest
      obtain ⟨behind, hbehind, hpass⟩ := hpassed.blanks hblanks fuel stack rest hrest
      cases hbehind
      refine ⟨_, ?_, hpass⟩
      simp only [List.cons_append, List.append_assoc, Frame.beforeValue, passKey]
      rw [skipBlanks_cons (by decide)]
      simp only [if_true, passQuoted_spells hkey, bind, Except.bind]
      exact colon_eq hbefore _
  | @emptyObject blanks hblanks =>
      refine ⟨1 + 1, by simp only [List.length_cons, List.length_append]; omega, ?_⟩
      apply passedItem_opening (by decide) (fun _ => rfl)
      intro fuel stack rest
      rw [List.append_assoc]
      exact pass_opened_close hblanks fuel
  | @object key v ms blanks first rest hblanks hfirst hrest ihfirst ihrest =>
      obtain ⟨n, hn, hfirstPassed⟩ := ihfirst
      obtain ⟨m, hm, hrestPassed⟩ := ihrest
      refine ⟨1 + (1 + n + m), by simp only [List.length_cons, List.length_append]; omega, ?_⟩
      apply passedItem_opening (by decide) (fun _ => rfl)
      intro fuel stack behind
      have hhead : ∃ b bs, first = b :: bs ∧ isBlank b = false ∧ b ≠ Frame.object.closer := by
        cases hfirst
        exact ⟨_, _, rfl, by decide, by decide⟩
      exact pass_opened_first .object hblanks hhead hfirstPassed hrest.endsLiteral_members hrestPassed fuel
  | membersEnd hblanks =>
      exact ⟨1, by simp only [List.length_cons, List.length_append]; omega, passedRest_close .object hblanks⟩
  | @membersNext key v ms before blanks first rest hbefore hblanks hfirst hrest ihfirst ihrest =>
      obtain ⟨n, hn, hfirstPassed⟩ := ihfirst
      obtain ⟨m, hm, hrestPassed⟩ := ihrest
      exact ⟨1 + n + m, by simp only [List.length_cons, List.length_append]; omega,
        passedRest_next hbefore (hfirstPassed.blanks_member hblanks) hrest.endsLiteral_members hrestPassed⟩

/-- A value is passed over, blanks in front of it included. -/
theorem passValue_eq {v : Tree} (h : Writes (.value v) s) {blanks : List UInt8} (hblanks : AreBlanks blanks)
    (hrest : EndsLiteral rest) : passValue (blanks ++ (s ++ rest)) = .ok rest := by
  obtain ⟨rounds, hrounds, hpassed⟩ := h.passedIn
  have hlength : (blanks ++ (s ++ rest)).length = blanks.length + (s.length + rest.length) := by
    rw [List.length_append, List.length_append]
  obtain ⟨fuel, hfuel⟩ : ∃ fuel, 2 * (blanks ++ (s ++ rest)).length + 2 = rounds + (fuel + 1) :=
    ⟨2 * (blanks ++ (s ++ rest)).length + 1 - rounds, by omega⟩
  obtain ⟨behind, hbehind, hpass⟩ := PassedItem.blanks hpassed hblanks (fuel + 1) [] rest hrest
  cases hbehind
  rw [passValue, hfuel, ← List.append_assoc, hpass]
  rfl

end Occupancy.Json
