import Mathlib.Data.List.Nodup
import Occupancy.CommandLine

/-! Settings spelt out on a command line, and the command line read back.

What is given goes by groups: the results directory, the option for the largest level with its value, a switch. A
group does the same to a draft whatever stands before it and behind it, as long as its place in the draft is free.
The groups that spell out settings have places of their own, so they may come in any order. -/

namespace Occupancy.CommandLine

/-- What one argument says, or an option with its value. -/
inductive Group
  | directory (dir : Path)
  | maxK (value : UInt32)
  /-- A switch, by its short name if that is asked for and there is one. -/
  | switch (s : Switch) (short : Bool)
deriving DecidableEq

/-- How a switch is written. Only one of them has a short name. -/
def Switch.spelling : Switch → Bool → String
  | .overlay, _ => "--overlay"
  | .logarithmic, _ => "--logy"
  | .noPoisson, _ => "--no-poisson"
  | .noNormalize, _ => "--no-normalize"
  | .quiet, false => "--quiet"
  | .quiet, true => "-q"

namespace Group

def arguments : Group → List String
  | directory dir => [dir.text]
  | maxK value => ["--max-k", toString value]
  | switch s short => [s.spelling short]

/-- The place in a draft that a group fills: that of a flag, or that of the results directory. -/
def place : Group → Option Flag
  | directory _ => none
  | maxK _ => some .maxK
  | switch s _ => some (.switch s)

/-- Whether the results directory, if the group gives it, can be taken for one. -/
def Positional : Group → Prop
  | directory dir => kindOf false dir.text = .positional
  | maxK _ | switch _ _ => True

end Group

def switches : List Switch := [.overlay, .logarithmic, .noPoisson, .noNormalize, .quiet]

/-- Whether settings are only reached with a switch. -/
def asks (settings : Settings) : Switch → Bool
  | .overlay => settings.overlay
  | .logarithmic => settings.chart.scale == .logarithmic
  | .noPoisson => !settings.chart.showPoisson
  | .noNormalize => !settings.chart.normalizeOverlay
  | .quiet => settings.quiet

/-- The groups that spell out settings. -/
def groups (settings : Settings) (short : Bool) : List Group :=
  .directory settings.resultsDir ::
    (settings.maxK.toList.map .maxK ++ (switches.filter (asks settings)).map (.switch · short))

/-! Numbers are read back from their decimal digits. -/

theorem le_ofDigitChars (value : Nat) (cs : List Char) : value ≤ Nat.ofDigitChars 10 cs value := by
  induction cs generalizing value with
  | nil => exact Nat.le_of_eq Nat.ofDigitChars_nil.symm
  | cons c cs ih =>
      rw [Nat.ofDigitChars_cons]
      have hrest := ih (10 * value + (c.toNat - '0'.toNat))
      omega

theorem appendDigits_of_isDigit {value : Nat} {cs : List Char} (hdigits : ∀ c ∈ cs, c.isDigit = true)
    (hlimit : Nat.ofDigitChars 10 cs value < 0x100000000) :
    appendDigits value cs = .ok (Nat.ofDigitChars 10 cs value) := by
  induction cs generalizing value with
  | nil => rw [appendDigits, Nat.ofDigitChars_nil]
  | cons c cs ih =>
      obtain ⟨hc, hcs⟩ := List.forall_mem_cons.mp hdigits
      rw [Nat.ofDigitChars_cons] at hlimit ⊢
      -- a number never gets smaller on the way
      have hnext := Nat.lt_of_le_of_lt (le_ofDigitChars _ cs) hlimit
      rw [appendDigits, if_pos hc]
      dsimp only
      rw [if_pos hnext]
      exact ih hcs hlimit

theorem readNumber_of_digits {text : String} (hne : text.toList ≠ []) (hdigits : ∀ c ∈ text.toList, c.isDigit = true) :
    readNumber text = (appendDigits 0 text.toList).map UInt32.ofNat := by
  unfold readNumber
  split
  · contradiction
  · next heq => exact absurd (hdigits '+' (heq ▸ List.mem_cons_self)) (by decide)
  · next heq => exact absurd (hdigits '+' (heq ▸ List.mem_cons_self)) (by decide)
  · rfl

theorem readNumber_toString (value : UInt32) : readNumber (toString value) = .ok value := by
  have htext : (toString value).toList = Nat.toDigits 10 value.toNat := Nat.toList_repr
  have hdigits : ∀ c ∈ Nat.toDigits 10 value.toNat, c.isDigit = true :=
    fun c hc => Nat.isDigit_of_mem_toDigits (by decide) (by decide) hc
  have hvalue : Nat.ofDigitChars 10 (Nat.toDigits 10 value.toNat) 0 = value.toNat := Nat.ofDigitChars_ten_toDigits
  rw [readNumber_of_digits (htext ▸ Nat.toDigits_ne_nil) (htext ▸ hdigits), htext,
    appendDigits_of_isDigit hdigits (hvalue.symm ▸ value.toNat_lt), hvalue]
  show Except.ok (UInt32.ofNat value.toNat) = _
  rw [UInt32.ofNat_toNat]

/-! How the first argument of a group is taken. -/

theorem kindOf_of_text {text : String} (hdash : text.toList.head? ≠ some '-') (hhelp : text ≠ "help") :
    kindOf false text = .positional := by
  have hlong : text ≠ "--help" := fun h => hdash (by rw [h]; rfl)
  have hend : text ≠ "--" := fun h => hdash (by rw [h]; rfl)
  simp [kindOf, hdash, hhelp, hlong, hend]

theorem kindOf_maxK : kindOf false "--max-k" = .option := by decide

theorem ofArgument?_maxK : Flag.ofArgument? "--max-k" = some .maxK := by decide

theorem kindOf_spelling (s : Switch) (short : Bool) : kindOf false (s.spelling short) = .option := by
  cases s <;> cases short <;> decide

theorem ofArgument?_spelling (s : Switch) (short : Bool) :
    Flag.ofArgument? (s.spelling short) = some (.switch s) := by
  cases s <;> cases short <;> decide

namespace Draft

variable {draft : Draft} {g g' : Group}

/-- The draft after a group. -/
def add (draft : Draft) : Group → Draft
  | .directory dir => { draft with resultsDir := some dir.text }
  | .maxK value => { draft with maxK := some value }
  | .switch s _ => draft.set s

/-- Whether a place in a draft can be filled. A switch may be given again. -/
def Free (draft : Draft) : Option Flag → Prop
  | none => draft.resultsDir = none
  | some .maxK => draft.maxK = none
  | some (.switch _) => True

theorem free_empty (place : Option Flag) : Free {} place := by
  rcases place with _ | _ | _
  · exact rfl
  · exact rfl
  · trivial

theorem set_resultsDir (draft : Draft) (s : Switch) : (draft.set s).resultsDir = draft.resultsDir := by
  cases s <;> rfl

theorem set_maxK (draft : Draft) (s : Switch) : (draft.set s).maxK = draft.maxK := by
  cases s <;> rfl

theorem set_comm (draft : Draft) (s s' : Switch) : (draft.set s).set s' = (draft.set s').set s := by
  cases s <;> cases s' <;> rfl

theorem Free.add {place : Option Flag} (h : draft.Free place) (hplace : place ≠ g.place) :
    (draft.add g).Free place := by
  rcases place with _ | _ | s
  case none =>
    cases g with
    | directory _ => exact absurd rfl hplace
    | maxK _ => exact h
    | switch s _ => exact (set_resultsDir draft s).trans h
  case some.maxK =>
    cases g with
    | directory _ => exact h
    | maxK _ => exact absurd rfl hplace
    | switch s _ => exact (set_maxK draft s).trans h
  case some.switch => trivial

theorem add_comm (h : g.place ≠ g'.place) : (draft.add g).add g' = (draft.add g').add g := by
  cases g with
  | directory dir =>
      cases g' with
      | directory _ => exact absurd rfl h
      | maxK _ => rfl
      | switch s _ => cases s <;> rfl
  | maxK value =>
      cases g' with
      | directory _ => rfl
      | maxK _ => exact absurd rfl h
      | switch s _ => cases s <;> rfl
  | switch s _ =>
      cases g' with
      | directory _ => cases s <;> rfl
      | maxK _ => cases s <;> rfl
      | switch s' _ => exact set_comm draft s s'

/-- The order of groups with places of their own does not matter. -/
theorem foldl_add_perm {left right : List Group} (hperm : left.Perm right) (hplaces : (left.map Group.place).Nodup)
    (draft : Draft) : left.foldl add draft = right.foldl add draft := by
  apply hperm.foldl_eq'
  intro g hg g' hg' draft
  by_cases heq : g = g'
  · rw [heq]
  · exact add_comm (fun hplace => heq (List.inj_on_of_nodup_map hplaces hg hg' hplace))

end Draft

/-- Reading goes on behind a group with the draft after it. -/
theorem parseFrom_group {draft : Draft} {g : Group} (hpositional : g.Positional) (hfree : draft.Free g.place)
    (rest : List String) :
    parseFrom false false draft (g.arguments ++ rest) = parseFrom false false (draft.add g) rest := by
  cases g with
  | directory dir =>
      have hkind : kindOf false dir.text = .positional := hpositional
      have hnone : draft.resultsDir = none := hfree
      rw [Group.arguments, List.singleton_append, parseFrom.eq_def]
      dsimp only
      rw [hkind]
      dsimp only
      rw [hnone]
      rfl
  | maxK value =>
      have hnone : draft.maxK = none := hfree
      have hset : draft.setMaxK (toString value) = .ok (draft.add (.maxK value)) := by
        rw [Draft.setMaxK, hnone, readNumber_toString]
        rfl
      rw [Group.arguments, List.cons_append, List.singleton_append, parseFrom, kindOf_maxK, ofArgument?_maxK]
      dsimp only
      rw [if_neg Bool.false_ne_true, hset]
  | switch s short =>
      rw [Group.arguments, List.singleton_append, parseFrom.eq_def]
      dsimp only
      rw [kindOf_spelling, ofArgument?_spelling]
      dsimp only
      rw [if_neg Bool.false_ne_true]
      rfl

theorem parseFrom_groups {order : List Group} {draft : Draft} (hpositional : ∀ g ∈ order, g.Positional)
    (hplaces : (order.map Group.place).Nodup) (hfree : ∀ g ∈ order, draft.Free g.place) :
    parseFrom false false draft (order.flatMap Group.arguments) = (order.foldl Draft.add draft).finish.map .run := by
  induction order generalizing draft with
  | nil => rfl
  | cons g order ih =>
      obtain ⟨hg, hrest⟩ := List.forall_mem_cons.mp hpositional
      obtain ⟨hfreeg, hfreerest⟩ := List.forall_mem_cons.mp hfree
      rw [List.map_cons, List.nodup_cons] at hplaces
      obtain ⟨hnew, hplaces⟩ := hplaces
      have hstill : ∀ g' ∈ order, (draft.add g).Free g'.place := by
        intro g' hg'
        refine (hfreerest g' hg').add ?_
        intro hsame
        exact hnew (hsame ▸ List.mem_map_of_mem hg')
      rw [List.flatMap_cons, parseFrom_group hg hfreeg, List.foldl_cons]
      exact ih hrest hplaces hstill

variable (settings : Settings) (short : Bool)

theorem places_groups_sublist : ((groups settings short).map Group.place).Sublist (none :: Flag.all.map some) := by
  have hmaxK : ((settings.maxK.toList.map Group.maxK).map Group.place).Sublist [some .maxK] := by
    cases settings.maxK with
    | none => exact List.nil_sublist _
    | some value => exact List.Sublist.refl _
  have hswitches : ((switches.filter (asks settings)).map (Group.switch · short)).map Group.place =
      (switches.filter (asks settings)).map (fun s => some (.switch s)) := by
    rw [List.map_map]
    rfl
  have hsublist : ((switches.filter (asks settings)).map (fun s => some (Flag.switch s))).Sublist
      (switches.map (fun s => some (.switch s))) := List.filter_sublist.map _
  rw [groups, List.map_cons, List.map_append, hswitches]
  exact (hmaxK.append hsublist).cons_cons _

/-- What the groups do not say, an empty draft has already. -/
theorem finish_groups : ((groups settings short).foldl Draft.add {}).finish = .ok settings := by
  rcases settings with ⟨dir, maxK, overlay, quiet, scale, showPoisson, normalizeOverlay⟩
  cases maxK <;> cases overlay <;> cases quiet <;> cases scale <;> cases showPoisson <;> cases normalizeOverlay <;> rfl

variable {settings short}

/-- **Settings are read back.** A command line that spells out settings, in whatever order, asks for a run with these
settings. -/
theorem parse_of_perm_groups {order : List Group} (hdash : settings.resultsDir.text.toList.head? ≠ some '-')
    (hhelp : settings.resultsDir.text ≠ "help") (horder : order.Perm (groups settings short)) :
    parse (order.flatMap Group.arguments) = .ok (.run settings) := by
  have hplaces : (order.map Group.place).Nodup := by
    have hall : (none :: Flag.all.map some).Nodup := by decide
    exact (horder.map Group.place).nodup_iff.mpr (hall.sublist (places_groups_sublist settings short))
  have hpositional : ∀ g ∈ order, g.Positional := by
    intro g hg
    have hmem := horder.mem_iff.mp hg
    simp only [groups, List.mem_cons, List.mem_append, List.mem_map] at hmem
    obtain rfl | ⟨_, _, rfl⟩ | ⟨_, _, rfl⟩ := hmem
    · exact kindOf_of_text hdash hhelp
    · trivial
    · trivial
  rw [parse, parseFrom_groups hpositional hplaces (fun g _ => Draft.free_empty g.place),
    Draft.foldl_add_perm horder hplaces, finish_groups]
  rfl

theorem parse_of_perm_groups_quiet :
    parse ["--max-k", "4294967295", "-q", "--no-poisson", "runs/α", "--logy"] =
      .ok (.run ⟨⟨"runs/α"⟩, some 4294967295, false, true, ⟨.logarithmic, false, true⟩⟩) := by
  have hperm : List.Perm
      [.maxK 4294967295, .switch .quiet true, .switch .noPoisson true, .directory ⟨"runs/α"⟩, .switch .logarithmic true]
      (groups ⟨⟨"runs/α"⟩, some 4294967295, false, true, ⟨.logarithmic, false, true⟩⟩ true) := by decide
  exact parse_of_perm_groups (by decide) (by decide) hperm

-- a directory of this name has to be given as `./help`
example : parse ["help"] = .ok .help := rfl

end Occupancy.CommandLine
