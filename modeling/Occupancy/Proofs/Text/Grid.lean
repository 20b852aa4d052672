import Mathlib.Data.List.TakeWhile
import Occupancy.Text.Blank
import Occupancy.Text.Grid

/-! Reading a grid back. A text is cut into lines, and a line at its bars; the blanks around a text between two bars do not
belong to it. As long as no cell has a blank or a bar of its own, the cells of every row are read from the line of the row,
and lines between rows have no cells. -/

namespace Occupancy.Text

variable {s front back : List Char} {c : Char} {n width : Nat} {word other cell : String}

/-- The lines of a text. -/
def lines (text : String) : List (List Char) := text.toList.splitOn '\n'

/-- The number that is written with decimal digits. -/
def number? (digits : List Char) : Option Nat :=
  if digits ≠ [] ∧ digits.all Char.isDigit then some (Nat.ofDigitChars 10 digits 0) else none

theorem isDigit_of_mem_toString (h : c ∈ (toString n).toList) : c.isDigit = true := by
  have htext : (toString n).toList = Nat.toDigits 10 n := Nat.toList_repr
  rw [htext] at h
  exact Nat.isDigit_of_mem_toDigits (by decide) (by decide) h

theorem number?_toString (n : Nat) : number? (toString n).toList = some n := by
  have htext : (toString n).toList = Nat.toDigits 10 n := Nat.toList_repr
  rw [number?, if_pos]
  · rw [htext, Nat.ofDigitChars_ten_toDigits]
  · constructor
    · rw [htext]
      exact Nat.toDigits_ne_nil
    · exact List.all_eq_true.mpr fun c hc => isDigit_of_mem_toString hc

/-! ### Texts of cells -/

/-- A text that fills a cell without a gap: it has neither blanks nor bars. -/
def IsCell (text : String) : Prop := ∀ c ∈ text.toList, isBlank c = false ∧ c ≠ '|'

instance (text : String) : Decidable (IsCell text) :=
  decidable_of_iff (text.toList.all fun c => !isBlank c && c != '|') (by simp [IsCell])

theorem IsCell.append (hword : IsCell word) (hother : IsCell other) : IsCell (word ++ other) := by
  intro c hc
  rw [String.toList_append, List.mem_append] at hc
  exact hc.elim (hword c) (hother c)

theorem isCell_toString (n : Nat) : IsCell (toString n) := by
  intro c hc
  have hdigit := isDigit_of_mem_toString hc
  rw [Char.isDigit_iff_toNat] at hdigit
  constructor
  · rw [isBlank, Bool.eq_false_iff, ne_eq, CodeRanges.contains_iff]
    rintro ⟨range, hrange, hfirst, hlast⟩
    have hapart : ∀ range ∈ blank, range.2 < '0'.toNat ∨ '9'.toNat < range.1 := by decide
    have hout := hapart range hrange
    omega
  · rintro rfl
    exact absurd hdigit (by decide)

/-- The blanks around a text without blanks are trimmed. -/
theorem trim_surrounded (hfront : ∀ c ∈ front, isBlank c = true) (hs : ∀ c ∈ s, isBlank c = false)
    (hback : ∀ c ∈ back, isBlank c = true) : trim (front ++ (s ++ back)) = s := by
  rw [trim, List.dropWhile_append_of_pos hfront]
  cases s with
  | nil =>
      rw [List.nil_append, List.dropWhile_eq_nil_iff.mpr hback]
      rfl
  | cons c s =>
      have hfirst : ¬isBlank c = true := Bool.eq_false_iff.mp (hs c List.mem_cons_self)
      have hlast : ((c :: s).reverse).dropWhile isBlank = (c :: s).reverse := by
        refine List.dropWhile_eq_self_iff.mpr fun hl => ?_
        exact Bool.eq_false_iff.mp (hs _ (List.mem_reverse.mp (List.getElem_mem hl)))
      rw [List.cons_append, List.dropWhile_cons_of_neg hfirst, ← List.cons_append, List.reverse_append,
        List.dropWhile_append_of_pos fun c hc => hback c (List.mem_reverse.mp hc), hlast, List.reverse_reverse]

namespace Grid

variable {ws : List Nat} {cells header : List String} {rows : List (List String)}

/-- The cells of a line. -/
def readCells (line : List Char) : List String := (line.splitOn '|').tail.dropLast.map fun text => String.ofList (trim text)

/-! ### Widths -/

theorem length_widths (hrows : ∀ cells ∈ rows, cells.length = n) : (widths n rows).length = n := by
  have hfold (start : List Nat) (hstart : start.length = n) :
      (rows.foldl (fun ws cells => ws.zipWith max (cells.map String.length)) start).length = n := by
    induction rows generalizing start with
    | nil => exact hstart
    | cons cells rows ih =>
        apply ih fun cells hcells => hrows cells (List.mem_cons_of_mem _ hcells)
        rw [List.length_zipWith, List.length_map, hstart, hrows cells List.mem_cons_self, Nat.min_self]
  exact hfold _ List.length_replicate

/-! ### Rows -/

/-- What stands between the bars of a cell. -/
def padded (width : Nat) (cell : String) : List Char :=
  [' '] ++ (cell.toList ++ (List.replicate (width - cell.length) ' ' ++ [' ']))

theorem toList_cellText (width : Nat) (cell : String) : (cellText width cell).toList = padded width cell ++ ['|'] := by
  simp [cellText, fill, padded]

theorem toList_rowText (ws : List Nat) (cells : List String) :
    (rowText ws cells).toList = '|' :: (ws.zipWith cellText cells).flatMap String.toList := by
  rw [rowText, String.toList_append, String.toList_join]
  rfl

theorem mem_padded (h : c ∈ padded width cell) : c = ' ' ∨ c ∈ cell.toList := by
  simp only [padded, List.mem_append, List.mem_singleton, List.mem_replicate] at h
  rcases h with h | h | ⟨-, h⟩ | h
  · exact Or.inl h
  · exact Or.inr h
  · exact Or.inl h
  · exact Or.inl h

theorem trim_padded (hcell : IsCell cell) (width : Nat) : trim (padded width cell) = cell.toList := by
  apply trim_surrounded
  · rw [List.forall_mem_singleton]
    decide
  · exact fun c hc => (hcell c hc).1
  · intro c hc
    rw [List.mem_append, List.mem_replicate, List.mem_singleton] at hc
    rcases hc with ⟨-, rfl⟩ | rfl <;> decide

theorem splitOn_cellTexts (hcells : ∀ cell ∈ cells, IsCell cell) :
    ((ws.zipWith cellText cells).flatMap String.toList).splitOn '|' = ws.zipWith padded cells ++ [[]] := by
  induction cells generalizing ws with
  | nil => simp [List.zipWith_nil_right]
  | cons cell cells ih =>
      cases ws with
      | nil => rfl
      | cons width ws =>
          have hbar : '|' ∉ padded width cell := by
            intro hmem
            rcases mem_padded hmem with h | h
            · exact absurd h (by decide)
            · exact (hcells cell List.mem_cons_self _ h).2 rfl
          rw [List.zipWith_cons_cons, List.flatMap_cons, toList_cellText, List.append_assoc, List.singleton_append,
            List.splitOn_append_cons_self, List.splitOn_eq_singleton hbar,
            ih fun cell hcell => hcells cell (List.mem_cons_of_mem _ hcell)]
          rfl

/-- The cells of a row are read from its line. -/
theorem readCells_rowText (hlength : ws.length = cells.length) (hcells : ∀ cell ∈ cells, IsCell cell) :
    readCells (rowText ws cells).toList = cells := by
  have hread : (ws.zipWith padded cells).map (fun text => String.ofList (trim text)) = cells := by
    rw [List.map_zipWith]
    induction cells generalizing ws with
    | nil => rw [List.zipWith_nil_right]
    | cons cell cells ih =>
        obtain ⟨width, ws, rfl⟩ := List.exists_cons_of_length_eq_add_one hlength
        rw [List.zipWith_cons_cons, trim_padded (hcells cell List.mem_cons_self), String.ofList_toList,
          ih (Nat.succ.inj hlength) fun cell hcell => hcells cell (List.mem_cons_of_mem _ hcell)]
  have hsplit : (rowText ws cells).toList.splitOn '|' = [] :: (ws.zipWith padded cells ++ [[]]) := by
    rw [toList_rowText, ← List.nil_append ('|' :: _), List.splitOn_append_cons_self, splitOn_cellTexts hcells]
    rfl
  rw [readCells, hsplit, List.tail_cons, List.dropLast_concat, hread]

theorem mem_rowText (h : c ∈ (rowText ws cells).toList) : c = '|' ∨ c = ' ' ∨ ∃ cell ∈ cells, c ∈ cell.toList := by
  rw [toList_rowText, List.mem_cons, ← List.map_uncurry_zip_eq_zipWith] at h
  rcases h with h | h
  · exact Or.inl h
  · obtain ⟨piece, hpiece, hc⟩ := List.mem_flatMap.mp h
    obtain ⟨⟨width, cell⟩, hzip, rfl⟩ := List.mem_map.mp hpiece
    rw [Function.uncurry_apply_pair, toList_cellText, List.mem_append, List.mem_singleton] at hc
    rcases hc with hc | hc
    · exact Or.inr ((mem_padded hc).imp_right fun hmem => ⟨cell, (List.of_mem_zip hzip).2, hmem⟩)
    · exact Or.inl hc

/-! ### Lines between rows -/

theorem mem_rule (h : c ∈ (rule ws).toList) : c = '+' ∨ c = '-' := by
  rw [rule, String.toList_append, String.toList_join, List.mem_append, List.mem_flatMap] at h
  rcases h with h | ⟨piece, hpiece, hc⟩
  · exact Or.inl (List.mem_singleton.mp h)
  · obtain ⟨width, -, rfl⟩ := List.mem_map.mp hpiece
    rw [fill, String.toList_append, String.toList_ofList, List.mem_append, List.mem_replicate] at hc
    rcases hc with ⟨-, hc⟩ | hc
    · exact Or.inr hc
    · exact Or.inl (List.mem_singleton.mp hc)

theorem readCells_rule (ws : List Nat) : readCells (rule ws).toList = [] := by
  have hbar : '|' ∉ (rule ws).toList := fun h => absurd (mem_rule h) (by decide)
  rw [readCells, List.splitOn_eq_singleton hbar]
  rfl

/-! ### Grids -/

theorem mem_lines {line : String} (h : line ∈ lines header rows) :
    ∃ ws, line = rule ws ∨ ∃ cells ∈ header :: rows, line = rowText ws cells := by
  rcases List.mem_cons.mp h with rfl | h
  · exact ⟨_, Or.inl rfl⟩
  · obtain ⟨cells, hcells, hline⟩ := List.mem_flatMap.mp h
    rw [List.mem_cons, List.mem_singleton] at hline
    rcases hline with rfl | rfl
    · exact ⟨_, Or.inr ⟨cells, hcells, rfl⟩⟩
    · exact ⟨_, Or.inl rfl⟩

theorem lines_text (hcells : ∀ cells ∈ header :: rows, ∀ cell ∈ cells, IsCell cell) :
    Text.lines (text header rows) = (lines header rows).map String.toList := by
  rw [Text.lines, text, String.toList_intercalate]
  apply List.splitOn_intercalate
  · rw [List.forall_mem_map]
    intro line hline hbreak
    obtain ⟨ws, rfl | ⟨cells, hrow, rfl⟩⟩ := mem_lines hline
    · exact absurd (mem_rule hbreak) (by decide)
    · rcases mem_rowText hbreak with h | h | ⟨cell, hcell, h⟩
      · exact absurd h (by decide)
      · exact absurd h (by decide)
      · exact absurd (hcells cells hrow cell hcell _ h).1 (by decide)
  · exact List.cons_ne_nil _ _

/-- A grid has the line of a row for each row, under a line for the header, and a line without cells before, between and
after them. -/
theorem readCells_text (hlength : ∀ cells ∈ rows, cells.length = header.length)
    (hcells : ∀ cells ∈ header :: rows, ∀ cell ∈ cells, IsCell cell) :
    (Text.lines (text header rows)).map readCells = [] :: (header :: rows).flatMap fun cells => [cells, []] := by
  have hlengths : ∀ cells ∈ header :: rows, cells.length = header.length := List.forall_mem_cons.mpr ⟨rfl, hlength⟩
  have hread : ∀ cells ∈ header :: rows,
      readCells (rowText (widths header.length (header :: rows)) cells).toList = cells := by
    intro cells hrow
    apply readCells_rowText _ (hcells cells hrow)
    rw [length_widths hlengths, hlengths cells hrow]
  rw [lines_text hcells, List.map_map, lines, List.map_cons, List.map_flatMap]
  show readCells (rule _).toList :: _ = _
  rw [readCells_rule, List.flatMap, List.flatMap]
  refine congrArg (fun lines => [] :: List.flatten lines) (List.map_congr_left fun cells hrow => ?_)
  show [readCells (rowText _ cells).toList, readCells (rule _).toList] = [cells, []]
  rw [hread cells hrow, readCells_rule]

end Grid

end Occupancy.Text
