import Mathlib.Algebra.Group.Nat.Defs
import Occupancy.Descriptor.Read
import Occupancy.Proofs.Json.Passing
import Occupancy.Proofs.Json.Typed

/-! Which object texts are descriptors. The reader of the members keeps one account for each field: what the draft
already had of it and what the members behind give it are together what the last draft has. A draft has at most one
value of a field, and only values that fit; so the members are read to their end exactly if every field gets at most
one value that fits it, and no other member and no order of the members enters the account. -/

namespace Occupancy.Descriptor

open Json Ascii

variable {draft next final : Draft} {field : Field} {key : String} {v : Tree} {ms : List (String × Tree)}
variable {d : Descriptor} {s blanks rest behind : List UInt8}

/-! ### What members say -/

/-- The values that a field may have. -/
def Fits : Field → Tree → Prop
  | .algorithm, v => ∃ s, v = .string s
  | .numBuckets, v => ∃ n < 2 ^ 64, v = .natural n
  | .numInputs, v => ∃ n < 2 ^ 64, v = .natural n
  | .countsFile, v => ∃ s, v = .string s
  | .countsDtype, v => ∃ s, v = .string s
  | .endianness, v => v = .null ∨ ∃ s, v = .string s

/-- The values that members give to a field. -/
def given (ms : List (String × Tree)) (field : Field) : List Tree :=
  (ms.filter (·.1 = field.key)).map Prod.snd

/-- The members of an object that are a descriptor: four fields once, two at most once, all with values that fit, and
not without buckets. -/
structure Acceptable (ms : List (String × Tree)) : Prop where
  required : ∀ field ∈ [Field.algorithm, .numBuckets, .numInputs, .countsFile], (given ms field).length = 1
  optional : ∀ field ∈ [Field.countsDtype, .endianness], (given ms field).length ≤ 1
  fits : ∀ field, ∀ v ∈ given ms field, Fits field v
  buckets : .natural 0 ∉ given ms .numBuckets

/-- The members say what the fields of the descriptor are. -/
structure Describes (ms : List (String × Tree)) (d : Descriptor) : Prop where
  algorithm : given ms .algorithm = [.string d.algorithm]
  numBuckets : given ms .numBuckets = [.natural d.numBuckets.toNat]
  numInputs : given ms .numInputs = [.natural d.numInputs.toNat]
  countsFile : given ms .countsFile = [.string d.countsFile]
  countsDtype : given ms .countsDtype = [.string d.countsDtype] ∨
    given ms .countsDtype = [] ∧ d.countsDtype = "int32"
  endianness : given ms .endianness = [d.endianness.elim .null .string] ∨
    given ms .endianness = [] ∧ d.endianness = none

theorem Field.key_injective {f g : Field} (h : f.key = g.key) : f = g := by
  have hlookup := congrArg Field.ofKey? h
  rw [Field.ofKey?_key, Field.ofKey?_key] at hlookup
  exact Option.some.inj hlookup

theorem Field.eq_key_of_ofKey? (h : Field.ofKey? key = some field) : key = field.key := by
  have hfound := List.find?_some h
  exact (beq_iff_eq.mp hfound).symm

theorem given_cons (key : String) (v : Tree) (ms : List (String × Tree)) (field : Field) :
    given ((key, v) :: ms) field = if key = field.key then v :: given ms field else given ms field := by
  rw [given, List.filter_cons]
  by_cases hkey : key = field.key
  · rw [if_pos hkey, if_pos (decide_eq_true hkey)]
    rfl
  · rw [if_neg hkey, if_neg (by rw [decide_eq_true_eq]; exact hkey)]
    rfl

/-! ### What a draft has -/

/-- The value that a draft has of a field. -/
def Draft.value? (draft : Draft) : Field → Option Tree
  | .algorithm => draft.algorithm.map .string
  | .numBuckets => draft.numBuckets.map fun n => .natural n.toNat
  | .numInputs => draft.numInputs.map fun n => .natural n.toNat
  | .countsFile => draft.countsFile.map .string
  | .countsDtype => draft.countsDtype.map .string
  | .endianness => draft.endianness.map fun tag => tag.elim .null .string

theorem Draft.has_eq_isSome (draft : Draft) (field : Field) : draft.has field = (draft.value? field).isSome := by
  cases field <;> exact (Option.isSome_map ..).symm

theorem Draft.fits_of_value? (h : draft.value? field = some v) : Fits field v := by
  cases field with
  | algorithm | countsFile | countsDtype =>
      obtain ⟨s, -, rfl⟩ := Option.map_eq_some_iff.mp h
      exact ⟨s, rfl⟩
  | numBuckets | numInputs =>
      obtain ⟨n, -, rfl⟩ := Option.map_eq_some_iff.mp h
      exact ⟨n.toNat, n.toNat_lt, rfl⟩
  | endianness =>
      obtain ⟨tag, -, rfl⟩ := Option.map_eq_some_iff.mp h
      cases tag with
      | none => exact Or.inl rfl
      | some s => exact Or.inr ⟨s, rfl⟩

theorem string_injective : Function.Injective Tree.string := fun _ _ h => Tree.string.inj h

theorem natural_injective : Function.Injective fun n : UInt64 => Tree.natural n.toNat :=
  fun _ _ h => UInt64.toNat_inj.mp (Tree.natural.inj h)

theorem elim_injective : Function.Injective fun tag : Option String => tag.elim Tree.null Tree.string := by
  intro tag other h
  cases tag <;> cases other <;> cases h <;> rfl

/-- A draft is what it has of the fields. -/
theorem Draft.ext_value? (h : ∀ field, draft.value? field = next.value? field) : draft = next := by
  obtain ⟨a, b, i, f, t, e⟩ := draft
  obtain ⟨a', b', i', f', t', e'⟩ := next
  obtain rfl := Option.map_injective string_injective (h .algorithm)
  obtain rfl := Option.map_injective natural_injective (h .numBuckets)
  obtain rfl := Option.map_injective natural_injective (h .numInputs)
  obtain rfl := Option.map_injective string_injective (h .countsFile)
  obtain rfl := Option.map_injective string_injective (h .countsDtype)
  obtain rfl := Option.map_injective elim_injective (h .endianness)
  rfl

/-- A value that fits goes into the draft, and leaves its other fields alone. -/
theorem Draft.read_of_fits (draft : Draft) (hwrites : Writes (.value v) s) (hblanks : AreBlanks blanks) (hrest : EndsLiteral rest)
    (hfits : Fits field v) :
    ∃ next, draft.read field (blanks ++ (s ++ rest)) = .ok (next, rest) ∧
      ∀ other, next.value? other = if other = field then some v else draft.value? other := by
  cases field with
  | algorithm | countsFile | countsDtype =>
      obtain ⟨t, rfl⟩ := hfits
      rw [Draft.read, readString_string hwrites hblanks]
      refine ⟨_, rfl, ?_⟩
      intro other
      cases other <;> rfl
  | numBuckets | numInputs =>
      obtain ⟨n, hn, rfl⟩ := hfits
      rw [Draft.read, readNatural_natural hwrites hblanks hrest hn]
      refine ⟨_, rfl, ?_⟩
      intro other
      rw [← UInt64.toNat_ofNat_of_lt' hn]
      cases other <;> first | rfl | rw [UInt64.ofNat_toNat]; rfl
  | endianness =>
      have hread : ∃ tag : Option String, v = tag.elim .null .string ∧
          readOptionalString (blanks ++ (s ++ rest)) = .ok (tag, rest) := by
        rcases hfits with rfl | ⟨t, rfl⟩
        · exact ⟨none, rfl, readOptionalString_null hwrites hblanks⟩
        · refine ⟨some t, rfl, ?_⟩
          rw [readOptionalString_eq hwrites hblanks nofun, readString_string hwrites hblanks]
          rfl
      obtain ⟨tag, rfl, hread⟩ := hread
      rw [Draft.read, hread]
      refine ⟨_, rfl, ?_⟩
      intro other
      cases other <;> rfl

theorem Draft.read_eq_error (hwrites : Writes (.value v) s) (hblanks : AreBlanks blanks) (hrest : EndsLiteral rest)
    (hfits : ¬Fits field v) : ∃ e, draft.read field (blanks ++ (s ++ rest)) = .error e := by
  have hstring (hv : ∀ t, v ≠ .string t) : ∃ e, readString (blanks ++ (s ++ rest)) = .error e :=
    readString_eq_error hwrites hblanks hv
  cases field with
  | algorithm | countsFile | countsDtype =>
      obtain ⟨e, he⟩ := hstring fun t ht => hfits ⟨t, ht⟩
      exact ⟨e, by rw [Draft.read, he]; rfl⟩
  | numBuckets | numInputs =>
      obtain ⟨e, he⟩ := readNatural_eq_error hwrites hblanks hrest fun n hn hv => hfits ⟨n, hn, hv⟩
      exact ⟨e, by rw [Draft.read, he]; rfl⟩
  | endianness =>
      obtain ⟨e, he⟩ := hstring fun t ht => hfits (Or.inr ⟨t, ht⟩)
      have hnull : v ≠ .null := fun hv => hfits (Or.inl hv)
      exact ⟨e, by rw [Draft.read, readOptionalString_eq hwrites hblanks hnull, he]; rfl⟩

/-! ### The account of the members -/

/-- The draft and what the members give are together the other draft. -/
def Takes (draft : Draft) (ms : List (String × Tree)) (final : Draft) : Prop :=
  ∀ field, (final.value? field).toList = (draft.value? field).toList ++ given ms field

theorem takes_nil : Takes draft [] final ↔ final = draft := by
  constructor
  · intro h
    apply Draft.ext_value?
    intro field
    have hfield := h field
    rw [given, List.filter_nil, List.map_nil, List.append_nil] at hfield
    have hhead := congrArg List.head? hfield
    rw [Option.head?_toList, Option.head?_toList] at hhead
    exact hhead
  · rintro rfl field
    exact (List.append_nil _).symm

theorem takes_cons_of_unknown (hkey : Field.ofKey? key = none) :
    Takes draft ((key, v) :: ms) final ↔ Takes draft ms final := by
  have hne (field : Field) : key ≠ field.key := by
    rintro rfl
    rw [Field.ofKey?_key] at hkey
    cases hkey
  unfold Takes
  simp only [given_cons, hne, if_false]

/-- A value moves from the members to the draft. -/
theorem takes_cons_of_value? (hkey : Field.ofKey? key = some field) (hfree : draft.value? field = none)
    (hnext : ∀ other, next.value? other = if other = field then some v else draft.value? other) :
    Takes draft ((key, v) :: ms) final ↔ Takes next ms final := by
  obtain rfl := Field.eq_key_of_ofKey? hkey
  refine forall_congr' fun other => ?_
  rw [given_cons, hnext]
  by_cases hother : other = field
  · rw [if_pos hother, hother, if_pos rfl, hfree]
    rfl
  · rw [if_neg hother, if_neg fun h => hother (Field.key_injective h).symm]

/-- A field has no room for a second value. -/
theorem not_takes_of_has (hkey : Field.ofKey? key = some field) (hhas : draft.has field = true) :
    ¬Takes draft ((key, v) :: ms) final := by
  intro h
  rw [Draft.has_eq_isSome] at hhas
  obtain ⟨held, hheld⟩ := Option.isSome_iff_exists.mp hhas
  have hlength := congrArg List.length (h field)
  rw [given_cons, if_pos (Field.eq_key_of_ofKey? hkey), hheld, List.length_append, List.length_cons] at hlength
  have hfinal : (final.value? field).toList.length ≤ 1 := Option.length_toList_le
  rw [Option.toList_some, List.length_singleton] at hlength
  omega

theorem not_takes_of_not_fits (hkey : Field.ofKey? key = some field) (hfits : ¬Fits field v) :
    ¬Takes draft ((key, v) :: ms) final := by
  intro h
  have hmem : v ∈ (final.value? field).toList := by
    rw [h field, given_cons, if_pos (Field.eq_key_of_ofKey? hkey)]
    exact List.mem_append_right _ List.mem_cons_self
  exact hfits (Draft.fits_of_value? (Option.mem_toList.mp hmem))

/-! ### Reading members -/

/-- A member is read exactly if the account with it can be settled, and then settles the same account. -/
theorem member_step (draft : Draft) (hwrites : Writes (.member key v) (quoteMark :: s)) (hrest : EndsLiteral rest) :
    (∃ next, member draft (s ++ rest) = .ok (next, rest) ∧
      ∀ ms final, Takes draft ((key, v) :: ms) final ↔ Takes next ms final) ∨
    (∃ e, member draft (s ++ rest) = .error e) ∧ ∀ ms final, ¬Takes draft ((key, v) :: ms) final := by
  cases hwrites with
  | @member _ _ forms before blanks text hforms hbefore hblanks hvalue =>
      have hkey : quoted (forms ++ quoteMark :: (before ++ Ascii.colon :: (blanks ++ text)) ++ rest) =
          .ok (key, before ++ Ascii.colon :: (blanks ++ (text ++ rest))) := by
        rw [List.append_assoc, List.cons_append, quoted_spells hforms]
        simp only [List.append_assoc, List.cons_append]
      rw [member, hkey]
      simp only [bind, Except.bind]
      cases hfield : Field.ofKey? key with
      | none =>
          refine Or.inl ⟨draft, ?_, fun ms final => takes_cons_of_unknown hfield⟩
          simp only [colon_eq hbefore, passValue_eq hvalue hblanks hrest]
      | some field =>
          cases hhas : draft.has field with
          | true =>
              simp only [hhas, if_true]
              exact Or.inr ⟨⟨_, rfl⟩, fun ms final => not_takes_of_has hfield hhas⟩
          | false =>
              simp only [hhas, Bool.false_eq_true, if_false, colon_eq hbefore]
              by_cases hfits : Fits field v
              · obtain ⟨next, hread, hnext⟩ := Draft.read_of_fits draft hvalue hblanks hrest hfits
                have hfree : draft.value? field = none := by
                  rw [Draft.has_eq_isSome] at hhas
                  exact Option.isNone_iff_eq_none.mp (Option.isSome_eq_false_iff.mp hhas)
                exact Or.inl ⟨next, hread, fun ms final => takes_cons_of_value? hfield hfree hnext⟩
              · exact Or.inr ⟨Draft.read_eq_error hvalue hblanks hrest hfits,
                  fun ms final => not_takes_of_not_fits hfield hfits⟩

/-- The members behind the first that `fuel` suffices for are read exactly if the account can be settled. -/
def ReadsAll (fuel : Nat) (ms : List (String × Tree)) (s rest : List UInt8) : Prop :=
  ∀ draft final behind, members fuel false draft s = .ok (final, behind) ↔ behind = rest ∧ Takes draft ms final

theorem members_step {first : Bool} {fuel : Nat} {text more : List UInt8}
    (hnext : nextKey first s = .ok (some (text ++ more))) (hwrites : Writes (.member key v) (quoteMark :: text))
    (hmore : EndsLiteral more) (hreads : ReadsAll fuel ms more rest) :
    members (fuel + 1) first draft s = .ok (final, behind) ↔ behind = rest ∧ Takes draft ((key, v) :: ms) final := by
  rw [members, hnext]
  simp only [bind, Except.bind]
  rcases member_step draft hwrites hmore with ⟨next, hmember, htakes⟩ | ⟨⟨e, hmember⟩, htakes⟩
  · simp only [hmember, htakes]
    exact hreads next final behind
  · simp only [hmember, reduceCtorEq, htakes, and_false]

theorem nextKey_first {text : List UInt8} (h : AreBlanks blanks) :
    nextKey true (blanks ++ quoteMark :: text) = .ok (some text) := by
  rw [nextKey, skipBlanks_append_cons h (by decide)]
  rfl

theorem nextKey_comma {before text : List UInt8} (hbefore : AreBlanks before) (hblanks : AreBlanks blanks) :
    nextKey false (before ++ comma :: (blanks ++ quoteMark :: text)) = .ok (some text) := by
  rw [nextKey, skipBlanks_append_cons hbefore (by decide)]
  simp only [skipBlanks_append_cons hblanks (by decide : isBlank quoteMark = false)]
  rfl

theorem members_closeBrace (first : Bool) (fuel : Nat) (hblanks : AreBlanks blanks) :
    members (fuel + 1) first draft (blanks ++ closeBrace :: rest) = .ok (final, behind) ↔
      behind = rest ∧ Takes draft [] final := by
  have hnext : nextKey first (blanks ++ closeBrace :: rest) = .ok none := by
    rw [nextKey, skipBlanks_append_cons hblanks (by decide)]
    exact if_pos rfl
  rw [members, hnext, skipBlanks_append_cons hblanks (by decide), takes_nil]
  simp only [bind, Except.bind, List.drop_succ_cons, List.drop_zero, Except.ok.injEq, Prod.mk.injEq]
  constructor
  · rintro ⟨rfl, rfl⟩
    exact ⟨rfl, rfl⟩
  · rintro ⟨rfl, rfl⟩
    exact ⟨rfl, rfl⟩

theorem readsAll_members (hwrites : Writes (.members ms) s) {fuel : Nat} (hfuel : s.length ≤ fuel)
    (rest : List UInt8) : ReadsAll fuel ms (s ++ rest) rest := by
  induction ms generalizing s fuel with
  | nil =>
      cases hwrites with
      | @membersEnd blanks hblanks =>
          rw [List.length_append, List.length_singleton] at hfuel
          obtain ⟨fuel, rfl⟩ : ∃ n, fuel = n + 1 := ⟨fuel - 1, by omega⟩
          intro draft final behind
          rw [List.append_assoc]
          exact members_closeBrace false fuel hblanks
  | cons m ms ih =>
      cases hwrites with
      | @membersNext key v _ before blanks first more hbefore hblanks hfirst hmore =>
          rw [List.length_append, List.length_cons, List.length_append, List.length_append] at hfuel
          obtain ⟨fuel, rfl⟩ : ∃ n, fuel = n + 1 := ⟨fuel - 1, by omega⟩
          intro draft final behind
          cases hfirst with
          | @member _ _ forms inner around text hkey hinner haround hvalue =>
              refine members_step ?_ (.member hkey hinner haround hvalue) (hmore.endsLiteral_members rest)
                (ih hmore (by omega))
              simp only [List.append_assoc, List.cons_append]
              exact nextKey_comma hbefore hblanks

/-- The members of an object are read from behind its brace. -/
theorem members_object (hwrites : Writes (.value (.object ms)) (openBrace :: s)) (rest : List UInt8) :
    members ((s ++ rest).length + 1) true draft (s ++ rest) = .ok (final, behind) ↔
      behind = rest ∧ Takes draft ms final := by
  cases hwrites with
  | @emptyObject blanks hblanks =>
      rw [List.append_assoc]
      exact members_closeBrace true _ hblanks
  | @object key v ms blanks first more hblanks hfirst hmore =>
      cases hfirst with
      | @member _ _ forms inner around text hkey hinner haround hvalue =>
          refine members_step ?_ (.member hkey hinner haround hvalue) (hmore.endsLiteral_members rest)
            (readsAll_members hmore ?_ rest)
          · simp only [List.append_assoc, List.cons_append]
            exact nextKey_first hblanks
          · simp only [List.length_append, List.length_cons]
            omega

/-! ### Descriptors -/

theorem Draft.finish_eq_ok_iff {unread : List UInt8} :
    draft.finish unread = .ok d ↔
      draft.algorithm = some d.algorithm ∧ draft.numBuckets = some d.numBuckets ∧
      draft.numInputs = some d.numInputs ∧ draft.countsFile = some d.countsFile ∧
      draft.countsDtype.getD defaultDtype = d.countsDtype ∧ draft.endianness.join = d.endianness := by
  obtain ⟨name, buckets, inputs, file, dtype, tag⟩ := draft
  obtain ⟨name', buckets', inputs', file', dtype', tag'⟩ := d
  cases name <;> cases buckets <;> cases inputs <;> cases file <;>
    simp [Draft.finish, Draft.require, fail, bind, Except.bind]

/-- The draft of the members of a descriptor. -/
def draftOf (ms : List (String × Tree)) (d : Descriptor) : Draft where
  algorithm := some d.algorithm
  numBuckets := some d.numBuckets
  numInputs := some d.numInputs
  countsFile := some d.countsFile
  countsDtype := if (given ms .countsDtype).isEmpty then none else some d.countsDtype
  endianness := if (given ms .endianness).isEmpty then none else some d.endianness

theorem takes_draftOf (h : Describes ms d) : Takes {} ms (draftOf ms d) := by
  intro field
  cases field with
  | algorithm => exact h.algorithm.symm
  | numBuckets => exact h.numBuckets.symm
  | numInputs => exact h.numInputs.symm
  | countsFile => exact h.countsFile.symm
  | countsDtype =>
      rcases h.countsDtype with hgiven | ⟨hgiven, -⟩ <;>
        simp only [Draft.value?, draftOf, hgiven] <;> rfl
  | endianness =>
      rcases h.endianness with hgiven | ⟨hgiven, -⟩ <;>
        simp only [Draft.value?, draftOf, hgiven] <;> rfl

theorem finish_draftOf (h : Describes ms d) (unread : List UInt8) : (draftOf ms d).finish unread = .ok d := by
  refine Draft.finish_eq_ok_iff.mpr ⟨rfl, rfl, rfl, rfl, ?_, ?_⟩
  · rcases h.countsDtype with hgiven | ⟨hgiven, hdefault⟩
    · simp only [draftOf, hgiven]
      rfl
    · simp only [draftOf, hgiven, hdefault]
      rfl
  · rcases h.endianness with hgiven | ⟨hgiven, hnone⟩
    · simp only [draftOf, hgiven]
      exact Option.join_some
    · simp only [draftOf, hgiven, hnone]
      rfl

theorem describes_of_finish {unread : List UInt8} (htakes : Takes {} ms draft) (hfinish : draft.finish unread = .ok d) :
    Describes ms d := by
  have hgiven (field : Field) : given ms field = (draft.value? field).toList := by
    rw [htakes field]
    cases field <;> rfl
  obtain ⟨hname, hbuckets, hinputs, hfile, hdtype, htag⟩ := Draft.finish_eq_ok_iff.mp hfinish
  refine ⟨?_, ?_, ?_, ?_, ?_, ?_⟩
  · rw [hgiven, Draft.value?, hname]
    rfl
  · rw [hgiven, Draft.value?, hbuckets]
    rfl
  · rw [hgiven, Draft.value?, hinputs]
    rfl
  · rw [hgiven, Draft.value?, hfile]
    rfl
  · rw [hgiven, Draft.value?, ← hdtype]
    cases draft.countsDtype with
    | none => exact Or.inr ⟨rfl, rfl⟩
    | some dtype => exact Or.inl rfl
  · rw [hgiven, Draft.value?, ← htag]
    cases draft.endianness with
    | none => exact Or.inr ⟨rfl, rfl⟩
    | some tag => exact Or.inl rfl

theorem readObject_eq_ok_iff (hwrites : Writes (.value (.object ms)) (openBrace :: s)) (rest : List UInt8) :
    readObject (s ++ rest) = .ok (d, behind) ↔ behind = rest ∧ Describes ms d := by
  have hmembers (final : Draft) (behind : List UInt8) :
      members ((s ++ rest).length + 1) true {} (s ++ rest) = .ok (final, behind) ↔ behind = rest ∧ Takes {} ms final :=
    members_object hwrites rest
  rw [readObject, bind_eq_ok_iff]
  constructor
  · rintro ⟨⟨final, left⟩, hread, hrest⟩
    obtain ⟨d', hfinish, heq⟩ := bind_eq_ok_iff.mp hrest
    cases heq
    obtain ⟨rfl, htakes⟩ := (hmembers final behind).mp hread
    exact ⟨rfl, describes_of_finish htakes hfinish⟩
  · rintro ⟨rfl, h⟩
    exact ⟨(draftOf ms d, behind), (hmembers _ behind).mpr ⟨rfl, takes_draftOf h⟩,
      bind_eq_ok_iff.mpr ⟨d, finish_draftOf h behind, rfl⟩⟩

/-- Blanks in front of an object are passed over. -/
theorem readText_append {before : List UInt8} (hbefore : AreBlanks before) (s : List UInt8) :
    readText (before ++ openBrace :: s) = (do
      let (d, rest) ← readObject s
      match skipBlanks rest with
      | [] => .ok d
      | _ :: unread => fail .trailingText unread) := by
  rw [readText, skipBlanks_append_cons hbefore (by decide)]
  rfl

/-- Blanks behind the object do not matter. -/
theorem readText_eq_ok_iff {before after : List UInt8} (hbefore : AreBlanks before)
    (hwrites : Writes (.value (.object ms)) (openBrace :: s)) (hafter : AreBlanks after) :
    readText (before ++ (openBrace :: s ++ after)) = .ok d ↔ Describes ms d := by
  rw [List.cons_append, readText_append hbefore, bind_eq_ok_iff]
  constructor
  · rintro ⟨⟨d', left⟩, hobject, hrest⟩
    obtain ⟨rfl, hdescribes⟩ := (readObject_eq_ok_iff hwrites after).mp hobject
    simp only [skipBlanks_eq_nil hafter, Except.ok.injEq] at hrest
    exact hrest ▸ hdescribes
  · intro h
    refine ⟨(d, after), (readObject_eq_ok_iff hwrites after).mpr ⟨rfl, h⟩, ?_⟩
    simp only [skipBlanks_eq_nil hafter]

/-- An object text is read as a descriptor exactly if that is what its members describe. -/
theorem read_eq_ok_iff (h : IsObjectText ms s) : read s = .ok d ↔ Describes ms d := by
  cases h with
  | @mk before text after hbefore htext hafter =>
      obtain ⟨b, bs, rfl, rfl⟩ := htext.exists_head
      rw [read, ← readText_eq_ok_iff hbefore htext hafter]
      cases readText (before ++ (openBrace :: bs ++ after)) with
      | error e =>
          constructor <;>
            · intro herror
              cases herror
      | ok read =>
          constructor <;>
            · intro hread
              cases hread
              rfl

/-! ### Acceptance -/

theorem Describes.acceptable (h : Describes ms d) (hbuckets : d.numBuckets ≠ 0) : Acceptable ms where
  required := by
    intro field hfield
    simp only [List.mem_cons, List.not_mem_nil, or_false] at hfield
    rcases hfield with rfl | rfl | rfl | rfl
    · exact congrArg List.length h.algorithm
    · exact congrArg List.length h.numBuckets
    · exact congrArg List.length h.numInputs
    · exact congrArg List.length h.countsFile
  optional := by
    intro field hfield
    simp only [List.mem_cons, List.not_mem_nil, or_false] at hfield
    rcases hfield with rfl | rfl
    · rcases h.countsDtype with hgiven | ⟨hgiven, -⟩ <;> rw [hgiven] <;> simp
    · rcases h.endianness with hgiven | ⟨hgiven, -⟩ <;> rw [hgiven] <;> simp
  fits := by
    intro field v hv
    have htakes := takes_draftOf h field
    rw [show (Draft.value? {} field).toList = [] by cases field <;> rfl, List.nil_append] at htakes
    rw [← htakes] at hv
    exact Draft.fits_of_value? (Option.mem_toList.mp hv)
  buckets := by
    rw [h.numBuckets, List.mem_singleton]
    intro hzero
    exact hbuckets (UInt64.toNat_inj.mp (Tree.natural.inj hzero).symm)

theorem Acceptable.exists_describes (h : Acceptable ms) : ∃ d, Describes ms d ∧ d.numBuckets ≠ 0 := by
  have hone (field : Field) (hfield : field ∈ [Field.algorithm, .numBuckets, .numInputs, .countsFile]) :
      ∃ v, given ms field = [v] ∧ Fits field v := by
    obtain ⟨v, hv⟩ := List.length_eq_one_iff.mp (h.required field hfield)
    exact ⟨v, hv, h.fits field v (by rw [hv]; exact List.mem_singleton_self v)⟩
  have hmost (field : Field) (hfield : field ∈ [Field.countsDtype, .endianness]) :
      given ms field = [] ∨ ∃ v, given ms field = [v] ∧ Fits field v := by
    rcases Nat.le_one_iff_eq_zero_or_eq_one.mp (h.optional field hfield) with hzero | hlength
    · exact Or.inl (List.length_eq_zero_iff.mp hzero)
    · obtain ⟨v, hv⟩ := List.length_eq_one_iff.mp hlength
      exact Or.inr ⟨v, hv, h.fits field v (by rw [hv]; exact List.mem_singleton_self v)⟩
  obtain ⟨_, hname, name, rfl⟩ := hone .algorithm (by decide)
  obtain ⟨_, hbuckets, buckets, hlimit, rfl⟩ := hone .numBuckets (by decide)
  obtain ⟨_, hinputs, inputs, hinputsLimit, rfl⟩ := hone .numInputs (by decide)
  obtain ⟨_, hfile, file, rfl⟩ := hone .countsFile (by decide)
  obtain ⟨dtype, hdtype⟩ : ∃ dtype : String, given ms .countsDtype = [.string dtype] ∨
      given ms .countsDtype = [] ∧ dtype = "int32" := by
    rcases hmost .countsDtype (by decide) with hnone | ⟨_, hgiven, dtype, rfl⟩
    · exact ⟨"int32", Or.inr ⟨hnone, rfl⟩⟩
    · exact ⟨dtype, Or.inl hgiven⟩
  obtain ⟨tag, htag⟩ : ∃ tag : Option String, given ms .endianness = [tag.elim .null .string] ∨
      given ms .endianness = [] ∧ tag = none := by
    rcases hmost .endianness (by decide) with hnone | ⟨_, hgiven, rfl | ⟨tag, rfl⟩⟩
    · exact ⟨none, Or.inr ⟨hnone, rfl⟩⟩
    · exact ⟨none, Or.inl hgiven⟩
    · exact ⟨some tag, Or.inl hgiven⟩
  refine ⟨⟨name, .ofNat buckets, .ofNat inputs, file, dtype, tag⟩, ⟨hname, ?_, ?_, hfile, hdtype, htag⟩, ?_⟩
  · rw [UInt64.toNat_ofNat_of_lt' hlimit]
    exact hbuckets
  · rw [UInt64.toNat_ofNat_of_lt' hinputsLimit]
    exact hinputs
  · intro hzero
    have hvalue := congrArg UInt64.toNat hzero
    rw [UInt64.toNat_ofNat_of_lt' hlimit] at hvalue
    apply h.buckets
    rw [hbuckets, hvalue]
    exact List.mem_singleton_self _

/-- The members with a meaning. -/
def recognised (ms : List (String × Tree)) : List (String × Tree) := ms.filter fun m => (Field.ofKey? m.1).isSome

theorem given_recognised (ms : List (String × Tree)) (field : Field) : given (recognised ms) field = given ms field := by
  rw [given, recognised, List.filter_filter, given]
  congr 2
  funext m
  by_cases hkey : m.1 = field.key
  · rw [hkey, Field.ofKey?_key]
    simp
  · simp [hkey]

/-- Neither the order of the members nor members without a meaning change what is described. -/
theorem Describes.of_perm {ms' : List (String × Tree)} (h : Describes ms d)
    (hperm : (recognised ms).Perm (recognised ms')) : Describes ms' d := by
  have hgiven (field : Field) : (given ms' field).Perm (given ms field) := by
    rw [← given_recognised ms', ← given_recognised ms]
    exact ((hperm.filter _).map _).symm
  have hsingle {field : Field} {v : Tree} (hv : given ms field = [v]) : given ms' field = [v] :=
    List.perm_singleton.mp (hv ▸ hgiven field)
  have hnone {field : Field} (hv : given ms field = []) : given ms' field = [] := List.perm_nil.mp (hv ▸ hgiven field)
  exact ⟨hsingle h.algorithm, hsingle h.numBuckets, hsingle h.numInputs, hsingle h.countsFile,
    h.countsDtype.imp hsingle (And.imp_left hnone), h.endianness.imp hsingle (And.imp_left hnone)⟩

end Occupancy.Descriptor
