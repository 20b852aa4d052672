import Occupancy.Proofs.Histogram
import Occupancy.Proofs.Text.Grid
import Occupancy.Report

/-! The table of a report. Expectations are computed for as many levels as the histogram has, so pairing the two drops none
of them: there is a row for every level, in ascending order. The cells of a row have neither blanks nor bars, and so level
and observed buckets are read back from the text of the table. Different histograms of one descriptor have different
tables. -/

namespace Occupancy

/-! ### Texts of numbers -/

namespace Decimal

open Text

theorem isCell_padded (width n : Nat) : IsCell (padded width n) := by
  have hzeros (count : Nat) : IsCell ("".pushn '0' count) := by
    rw [String.pushn_eq_repeat_push]
    induction count with
    | zero => decide
    | succ count ih =>
        intro c hc
        rw [Nat.repeat, String.toList_push, List.mem_append, List.mem_singleton] at hc
        rcases hc with hc | rfl
        · exact ih c hc
        · decide
  exact (hzeros _).append (isCell_toString n)

theorem isCell_signText (negative : Bool) : IsCell (signText negative) := by
  cases negative <;> decide

theorem isCell_fixedRatio (places num den : Nat) : IsCell (fixedRatio places num den) := by
  rw [fixedRatio]
  split
  · exact isCell_toString _
  · exact ((isCell_toString _).append (by decide)).append (isCell_padded _ _)

theorem isCell_fixed (places : Nat) (x : Float) : IsCell (fixed places x) := by
  rw [fixed, withSign]
  split
  · decide
  · exact (isCell_signText _).append (by decide)
  · exact (isCell_signText _).append (isCell_fixedRatio _ _ _)

end Decimal

/-! ### Rows -/

namespace LevelRow

open Text

variable {cell : String}

/-- The level and the observed buckets among the cells of a line. -/
def read : List String → Option (Nat × Nat)
  | level :: observed :: _ => (number? level.toList).bind fun k => (number? observed.toList).map fun f => (k, f)
  | _ => none

theorem read_cells (row : LevelRow) : read row.cells = some (row.level.toNat, row.observed.toNat) := by
  have hlevel : number? (toString row.level).toList = some row.level.toNat := number?_toString _
  have hobserved : number? (toString row.observed).toList = some row.observed.toNat := number?_toString _
  rw [cells, read, hlevel, hobserved]
  rfl

theorem isCell_percentageText (observed total : UInt64) : IsCell (percentageText observed total) := by
  rw [percentageText]
  split
  · decide
  · exact (Decimal.isCell_fixed _ _).append (by decide)

theorem isCell_of_mem_cells {level : UInt32} {observed total : UInt64} {expected : Float}
    (h : cell ∈ (LevelRow.of level observed expected total).cells) : IsCell cell := by
  simp only [cells, LevelRow.of, List.mem_cons, List.not_mem_nil, or_false] at h
  rcases h with rfl | rfl | rfl | rfl
  · exact isCell_toString level.toNat
  · exact isCell_toString observed.toNat
  · exact Decimal.isCell_fixed _ _
  · exact isCell_percentageText _ _

end LevelRow

namespace Report

open Text

variable {r other : Report} {top : UInt32} {cells : List String}

/-- The rows of a report are those of the levels from zero to `top`, each with the number of buckets that were observed at
the level, the expectation for it and the share of the observed buckets in all buckets of the algorithm. -/
structure ListsLevels (r : Report) (top : UInt32) : Prop where
  maxK : r.histogram.maxK = some top
  levelCount : r.histogram.frequencies.length = top.toNat + 1
  levels : r.rows.map (fun row => row.level.toNat) = List.range (top.toNat + 1)
  row : ∀ k ≤ top.toNat, ∃ f e, r.histogram.frequencies[k]? = some f ∧
    (Poisson.expected top r.descriptor.rate r.descriptor.numBuckets)[k]? = some e ∧
    r.rows[k]? = some ⟨UInt32.ofNat k, f, Decimal.fixed 2 e, LevelRow.percentageText f r.descriptor.numBuckets⟩

theorem length_expected (hmaxK : r.histogram.maxK = some top) : r.expected.length = top.toNat + 1 := by
  rw [expected, hmaxK]
  exact Poisson.length_expected _ _ _

/-- No level is dropped where rows are made. -/
theorem pairs_of_rows (hlevels : r.histogram.frequencies.length ≤ 2 ^ 32) :
    r.rows.map (fun row => (row.level, row.observed)) = r.histogram.pairs := by
  have hle : r.histogram.pairs.length ≤ r.expected.length := by
    rw [Histogram.length_pairs]
    cases hmaxK : r.histogram.maxK with
    | none => simp [Histogram.maxK_eq_none_iff.mp hmaxK]
    | some top => rw [length_expected hmaxK, Histogram.length_of_maxK hlevels hmaxK]
  calc
    r.rows.map (fun row => (row.level, row.observed))
      = (r.histogram.pairs.zip r.expected).map Prod.fst := by
        rw [rows, levelRows, List.map_zipWith, List.zip, List.map_zipWith]
        rfl
    _ = r.histogram.pairs := List.map_fst_zip hle

theorem length_rows (hlevels : r.histogram.frequencies.length ≤ 2 ^ 32) :
    r.rows.length = r.histogram.frequencies.length := by
  have hlength := congrArg List.length (pairs_of_rows hlevels)
  rwa [List.length_map, Histogram.length_pairs] at hlength

/-- Levels and observed buckets of the rows, as numbers. -/
theorem numbers_of_rows (hlevels : r.histogram.frequencies.length ≤ 2 ^ 32) :
    r.rows.map (fun row => (row.level.toNat, row.observed.toNat)) =
      (List.range r.histogram.frequencies.length).zip (r.histogram.frequencies.map UInt64.toNat) := by
  calc
    r.rows.map (fun row => (row.level.toNat, row.observed.toNat))
      = (r.rows.map fun row => (row.level, row.observed)).map (Prod.map UInt32.toNat UInt64.toNat) := by
        rw [List.map_map]
        rfl
    _ = (r.histogram.levels.map UInt32.toNat).zip (r.histogram.frequencies.map UInt64.toNat) := by
        rw [pairs_of_rows hlevels, Histogram.pairs, List.zip_map]
    _ = _ := by rw [Histogram.toNat_levels hlevels]

theorem listsLevels (hmaxK : r.histogram.maxK = some top) (hlevels : r.histogram.frequencies.length ≤ 2 ^ 32) :
    ListsLevels r top := by
  have hlength := Histogram.length_of_maxK hlevels hmaxK
  refine ⟨hmaxK, hlength, ?_, fun k hk => ?_⟩
  · have hnumbers := congrArg (List.map Prod.fst) (numbers_of_rows hlevels)
    rw [List.map_map, List.map_fst_zip (by simp), hlength] at hnumbers
    exact hnumbers
  · have hfrequency : k < r.histogram.frequencies.length := by omega
    have hexpected : k < (Poisson.expected top r.descriptor.rate r.descriptor.numBuckets).length := by
      rw [Poisson.length_expected]
      omega
    refine ⟨_, _, List.getElem?_eq_getElem hfrequency, List.getElem?_eq_getElem hexpected, ?_⟩
    rw [rows, levelRows, expected, hmaxK, List.getElem?_zipWith, Histogram.pairs, List.zip, List.getElem?_zipWith,
      Histogram.levels, List.getElem?_map, List.getElem?_range hfrequency, List.getElem?_eq_getElem hfrequency,
      List.getElem?_eq_getElem hexpected]
    rfl

/-- The percentage in a row is that of the observed buckets in all buckets of the algorithm, with two decimals. -/
theorem ListsLevels.percentage (h : ListsLevels r top) (hbuckets : r.descriptor.numBuckets ≠ 0) {k : Nat} {f : UInt64}
    (hf : r.histogram.frequencies[k]? = some f) :
    r.rows[k]?.map LevelRow.percentage =
      some (Decimal.fixed 2 (f.toFloat / r.descriptor.numBuckets.toFloat * 100.0) ++ "%") := by
  have hlt : k < top.toNat + 1 := h.levelCount ▸ (List.getElem?_eq_some_iff.mp hf).1
  obtain ⟨observed, _, hobserved, -, hrow⟩ := h.row k (Nat.le_of_lt_succ hlt)
  rw [hf] at hobserved
  cases hobserved
  rw [hrow, Option.map_some, LevelRow.percentageText, if_neg hbuckets]

/-! ### The text of the table -/

/-- The grid of the rows, under the title and its underline. -/
def grid (r : Report) : String := Grid.text LevelRow.header (r.rows.map LevelRow.cells)

theorem isCell_of_mem_rows (hrow : cells ∈ LevelRow.header :: r.rows.map LevelRow.cells) : ∀ cell ∈ cells, IsCell cell := by
  rcases List.mem_cons.mp hrow with rfl | hrow
  · decide
  · obtain ⟨row, hmem, rfl⟩ := List.mem_map.mp hrow
    rw [rows, levelRows, ← List.map_uncurry_zip_eq_zipWith] at hmem
    obtain ⟨⟨⟨level, observed⟩, expected⟩, -, rfl⟩ := List.mem_map.mp hmem
    exact fun cell hcell => LevelRow.isCell_of_mem_cells hcell

/-- All lines of a grid: two lines around the header, then the line of each row and a line after it. -/
theorem readCells_grid (r : Report) :
    (Text.lines r.grid).map Grid.readCells =
      [] :: LevelRow.header :: [] :: r.rows.flatMap fun row => [row.cells, []] := by
  have hlength : ∀ cells ∈ r.rows.map LevelRow.cells, cells.length = LevelRow.header.length := by
    rw [List.forall_mem_map]
    exact fun row _ => rfl
  rw [grid, Grid.readCells_text hlength fun cells hrow => isCell_of_mem_rows hrow, List.flatMap_cons, List.flatMap_map]
  rfl

/-- Levels and observed buckets on those lines that have them. -/
def readLines (lines : List (List Char)) : List (Nat × Nat) := (lines.map Grid.readCells).filterMap LevelRow.read

theorem readLines_grid (r : Report) :
    readLines (Text.lines r.grid) = r.rows.map fun row => (row.level.toNat, row.observed.toNat) := by
  have hrows (rows : List LevelRow) : (rows.flatMap fun row => [row.cells, []]).filterMap LevelRow.read =
      rows.map fun row => (row.level.toNat, row.observed.toNat) := by
    induction rows with
    | nil => rfl
    | cons row rows ih =>
        rw [List.flatMap_cons, List.filterMap_append, ih, List.filterMap_cons_some (LevelRow.read_cells row)]
        rfl
  rw [readLines, readCells_grid, List.filterMap_cons_none rfl, List.filterMap_cons_none (by decide),
    List.filterMap_cons_none rfl, hrows]

theorem table_eq (hsome : r.histogram.frequencies ≠ []) (hlevels : r.histogram.frequencies.length ≤ 2 ^ 32) :
    r.table = r.descriptor.algorithm ++ "\n" ++ Grid.fill '=' r.descriptor.algorithm.utf8ByteSize ++ "\n" ++ r.grid := by
  have hrows : ¬r.rows.isEmpty = true := by
    rw [List.isEmpty_iff, ← List.length_eq_zero_iff, length_rows hlevels, List.length_eq_zero_iff]
    exact hsome
  rw [table, tableText, if_neg hrows]
  rfl

theorem lines_table (hsome : r.histogram.frequencies ≠ []) (hlevels : r.histogram.frequencies.length ≤ 2 ^ 32)
    (htitle : '\n' ∉ r.descriptor.algorithm.toList) :
    Text.lines r.table =
      r.descriptor.algorithm.toList :: List.replicate r.descriptor.algorithm.utf8ByteSize '=' :: Text.lines r.grid := by
  have hunderline : '\n' ∉ List.replicate r.descriptor.algorithm.utf8ByteSize '=' :=
    fun h => absurd (List.eq_of_mem_replicate h) (by decide)
  have htext : r.table.toList = r.descriptor.algorithm.toList ++
      '\n' :: (List.replicate r.descriptor.algorithm.utf8ByteSize '=' ++ '\n' :: r.grid.toList) := by
    simp [table_eq hsome hlevels, Grid.fill]
  rw [Text.lines, htext, List.splitOn_append_cons_self, List.splitOn_append_cons_self, List.splitOn_eq_singleton htitle,
    List.splitOn_eq_singleton hunderline]
  rfl

/-- The text of a table below its title is read back, line by line: the cells of the header, the cells of each row, and
nothing on the lines around them. -/
structure ReadsBack (r : Report) : Prop where
  title : (Text.lines r.table).take 2 =
    [r.descriptor.algorithm.toList, List.replicate r.descriptor.algorithm.utf8ByteSize '=']
  cells : ((Text.lines r.table).drop 2).map Grid.readCells =
    [] :: LevelRow.header :: [] :: r.rows.flatMap fun row => [row.cells, []]
  numbers : readLines ((Text.lines r.table).drop 2) =
    (List.range r.histogram.frequencies.length).zip (r.histogram.frequencies.map UInt64.toNat)

theorem readsBack (hsome : r.histogram.frequencies ≠ []) (hlevels : r.histogram.frequencies.length ≤ 2 ^ 32)
    (htitle : '\n' ∉ r.descriptor.algorithm.toList) : ReadsBack r := by
  have hlines := lines_table hsome hlevels htitle
  have hgrid : (Text.lines r.table).drop 2 = Text.lines r.grid := by
    rw [hlines, List.drop_succ_cons, List.drop_succ_cons, List.drop_zero]
  constructor
  · rw [hlines, List.take_succ_cons, List.take_succ_cons, List.take_zero]
  · rw [hgrid, readCells_grid]
  · rw [hgrid, readLines_grid, numbers_of_rows hlevels]

/-- What is read from a grid determines the histogram. -/
theorem histogram_eq_of_grid (hlevels : r.histogram.frequencies.length ≤ 2 ^ 32)
    (hother : other.histogram.frequencies.length ≤ 2 ^ 32) (hgrid : other.grid = r.grid) :
    other.histogram = r.histogram := by
  have hnumbers : (List.range other.histogram.frequencies.length).zip (other.histogram.frequencies.map UInt64.toNat) =
      (List.range r.histogram.frequencies.length).zip (r.histogram.frequencies.map UInt64.toNat) := by
    rw [← numbers_of_rows hother, ← numbers_of_rows hlevels, ← readLines_grid, ← readLines_grid, hgrid]
  have hfrequencies := congrArg (List.map Prod.snd) hnumbers
  rw [List.map_snd_zip (by simp), List.map_snd_zip (by simp), List.map_inj_right fun _ _ => UInt64.toNat_inj.mp]
    at hfrequencies
  exact congrArg Histogram.mk hfrequencies

/-- Reports on one descriptor have the same table only if they have the same histogram, whatever the title is. -/
theorem histogram_eq_of_table (hsome : r.histogram.frequencies ≠ [])
    (hlevels : r.histogram.frequencies.length ≤ 2 ^ 32) (hothers : other.histogram.frequencies ≠ [])
    (hother : other.histogram.frequencies.length ≤ 2 ^ 32) (hdescriptor : other.descriptor = r.descriptor)
    (htable : other.table = r.table) : other.histogram = r.histogram := by
  rw [table_eq hsome hlevels, table_eq hothers hother, hdescriptor] at htable
  exact histogram_eq_of_grid hlevels hother ((String.append_right_inj _).mp htable)

/-- **The table of a report is complete and readable.** Where levels are 32-bit numbers and there is one at least, there is a
row for every level with the right numbers. If the title is one line, the cells of every row are read back from a line of its
own, and so are level and observed buckets. No other histogram of the descriptor has this table. -/
theorem table_complete (r : Report) (hsome : r.histogram.frequencies ≠ [])
    (hlevels : r.histogram.frequencies.length ≤ 2 ^ 32) :
    (∃ top, ListsLevels r top) ∧
    ('\n' ∉ r.descriptor.algorithm.toList → ReadsBack r) ∧
    ∀ other : Report, other.descriptor = r.descriptor → other.histogram.frequencies ≠ [] →
      other.histogram.frequencies.length ≤ 2 ^ 32 → other.histogram ≠ r.histogram → other.table ≠ r.table := by
  obtain ⟨top, hmaxK⟩ := Histogram.exists_maxK hsome
  refine ⟨⟨top, listsLevels hmaxK hlevels⟩, readsBack hsome hlevels, ?_⟩
  intro other hdescriptor hothers hother hne htable
  exact hne (histogram_eq_of_table hsome hlevels hothers hother hdescriptor htable)

/-- Four items in three buckets, one of which is empty. -/
def threeBuckets : Report := ⟨⟨"a", 3, 4, "a.bin", "int32", none⟩, ⟨[1, 1, 0, 1]⟩⟩

/-- Levels without buckets have rows, too, and without its last level the table is another one. -/
theorem table_complete_threeBuckets :
    threeBuckets.rows.map (fun row => row.level.toNat) = [0, 1, 2, 3] ∧
      readLines ((Text.lines threeBuckets.table).drop 2) = [(0, 1), (1, 1), (2, 0), (3, 1)] ∧
      Report.table ⟨threeBuckets.descriptor, ⟨[1, 1, 0]⟩⟩ ≠ threeBuckets.table := by
  obtain ⟨⟨top, hlists⟩, hreads, hothers⟩ := table_complete threeBuckets (by decide) (by decide)
  have htop : top = 3 := (Option.some.inj hlists.maxK).symm
  refine ⟨?_, (hreads (by decide)).numbers, hothers _ rfl (by decide) (by decide) (by decide)⟩
  rw [hlists.levels, htop]
  rfl

end Report

end Occupancy
