import Occupancy.Chart.Overlay
import Occupancy.Proofs.Histogram

/-! The chart that compares algorithms. What it says about them is read off its calls: the lines are those of the tables
of buckets, in their order, over the levels that all of them have. -/

namespace Occupancy.Chart

open Histogram

variable {series : List Series} {options : Options} {tables : List (String × List UInt32)} {top : UInt32}
  {drawing : Drawing Float}

/-! ### Whether there is a chart -/

/-- A histogram that the overlay has a line for: it has levels, and if fractions are shown 64 bits can hold its total. -/
structure HasLine (normalize : Bool) (h : Histogram) : Prop where
  levels : h.frequencies ≠ []
  total : normalize = true → h.sum < 2 ^ 64

/-- The first levels of a histogram that has a line have one, too. -/
theorem HasLine.of_prefix {normalize : Bool} {g h : Histogram} (hline : HasLine normalize h)
    (hfront : g.frequencies <+: h.frequencies) (hlevels : g.frequencies ≠ []) : HasLine normalize g where
  levels := hlevels
  total hnormalize := Nat.lt_of_le_of_lt (sum_le_of_front hfront) (hline.total hnormalize)

/-- Tables of buckets have lines up to any level, as long as there are no more buckets than a total can count. -/
theorem hasLine_upTo {counts : List UInt32} (h : counts.length < 2 ^ 64) (normalize : Bool) (n : Nat) :
    HasLine normalize (upTo n counts) where
  levels := by
    rw [← List.length_pos_iff, length_upTo]
    exact Nat.succ_pos n
  total _ := by
    have hlimit : holdingUpTo counts n < 2 ^ 64 := Nat.lt_of_le_of_lt (holdingUpTo_le_length counts n) h
    rwa [sum_upTo hlimit]

/-- Why a series has no line in the overlay. -/
def lineError (s : Series) : ChartError :=
  if s.histogram.frequencies.isEmpty then .emptyHistogram s.name else .overflow .add

/-- The largest level of some series. -/
def largestLevel (series : List Series) : UInt32 := (series.map fun s => s.histogram.maxK.getD 0).foldl max 0

section Data

variable {α : Type} [Scalar α] [OfScientific α] [Div α] {normalize : Bool} {s : Series} {before after : List Series}

/-- The values that the overlay shows of a histogram; there are none if there is no line for it. -/
def shownValues (normalize : Bool) (h : Histogram) : List α :=
  match overlayValues normalize h with
  | .error _ => []
  | .ok values => values

/-- The lines of series, each of the values that are shown. -/
def seriesLines (normalize : Bool) (series : List Series) : List (String × List α) :=
  series.map fun s => (s.name, shownValues normalize s.histogram)

theorem exists_overlayValues {h : Histogram} (htotal : normalize = true → h.sum < 2 ^ 64) :
    ∃ values : List α, overlayValues normalize h = .ok values := by
  cases normalize with
  | false => exact ⟨h.values, rfl⟩
  | true =>
      have hfractions : (h.fractions : Except Overflow (List α)) = .ok (h.fractionsOf (UInt64.ofNat h.sum)) := by
        rw [fractions, total_of_lt (htotal rfl), Except.map]
      exact ⟨_, hfractions⟩

theorem overlayLine_of_hasLine (hline : HasLine normalize s.histogram) :
    overlayLine normalize s = .ok (s.histogram.maxK.getD 0, (shownValues normalize s.histogram : List α)) := by
  obtain ⟨top, htop⟩ := exists_maxK hline.levels
  obtain ⟨values, hvalues⟩ : ∃ values : List α, overlayValues normalize s.histogram = .ok values :=
    exists_overlayValues hline.total
  rw [overlayLine, htop, shownValues, hvalues]
  rfl

theorem overlayLine_of_not_hasLine (hline : ¬HasLine normalize s.histogram) :
    (overlayLine normalize s : Except ChartError (UInt32 × List α)) = .error (lineError s) := by
  by_cases hempty : s.histogram.frequencies = []
  · rw [overlayLine, maxK_eq_none_iff.mpr hempty, lineError, hempty]
    rfl
  · obtain ⟨top, htop⟩ := exists_maxK hempty
    have hnone : ¬(normalize = true → s.histogram.sum < 2 ^ 64) := fun htotal => hline ⟨hempty, htotal⟩
    rw [Classical.not_imp, Nat.not_lt] at hnone
    obtain ⟨rfl, hsum⟩ := hnone
    have hvalues : (overlayValues true s.histogram : Except Overflow (List α)) = .error .add := by
      show s.histogram.fractions = _
      rw [fractions, total_of_le hsum, Except.map]
    rw [overlayLine, htop, lineError, if_neg (by rwa [List.isEmpty_iff])]
    simp only [hvalues]

theorem overlayData_from (hlines : ∀ s ∈ series, HasLine normalize s.histogram) (start : UInt32) :
    overlayData normalize start series = .ok ((series.map fun s => s.histogram.maxK.getD 0).foldl max start,
      (seriesLines normalize series : List (String × List α))) := by
  induction series generalizing start with
  | nil => rfl
  | cons s series ih =>
      rw [overlayData, overlayLine_of_hasLine (hlines s List.mem_cons_self)]
      simp only [ih (fun s hs => hlines s (List.mem_cons_of_mem _ hs))]
      rfl

/-- The lines of series that all have one. -/
theorem overlayData_eq (hlines : ∀ s ∈ series, HasLine normalize s.histogram) :
    overlayData normalize 0 series =
      .ok (largestLevel series, (seriesLines normalize series : List (String × List α))) := overlayData_from hlines 0

/-- The first series without a line is to blame. -/
theorem overlayData_of_not_hasLine (hbefore : ∀ s ∈ before, HasLine normalize s.histogram)
    (hline : ¬HasLine normalize s.histogram) (start : UInt32) :
    (overlayData normalize start (before ++ s :: after) : Except ChartError (UInt32 × List (String × List α))) =
      .error (lineError s) := by
  induction before generalizing start with
  | nil => rw [List.nil_append, overlayData, overlayLine_of_not_hasLine hline]
  | cons first before ih =>
      rw [List.cons_append, overlayData, overlayLine_of_hasLine (hbefore first List.mem_cons_self)]
      simp only [ih fun s hs => hbefore s (List.mem_cons_of_mem _ hs)]

end Data

/-- Series that all have a line can be compared. -/
theorem ofSeries_eq (hseries : series ≠ []) (hlines : ∀ s ∈ series, HasLine options.normalizeOverlay s.histogram) :
    ofSeries series options = .ok (overlayDrawing options.scale options.normalizeOverlay (largestLevel series)
      (seriesLines options.normalizeOverlay series)) := by
  rw [ofSeries.eq_def]
  cases series with
  | nil => exact absurd rfl hseries
  | cons s series => simp only [overlayData_eq hlines]

theorem ofSeries_of_not_hasLine {before after : List Series} {s : Series}
    (hbefore : ∀ s ∈ before, HasLine options.normalizeOverlay s.histogram)
    (hline : ¬HasLine options.normalizeOverlay s.histogram) :
    ofSeries (before ++ s :: after) options = .error (lineError s) := by
  have hdata : (overlayData options.normalizeOverlay 0 (before ++ s :: after) :
      Except ChartError (UInt32 × List (String × List Float))) = .error (lineError s) :=
    overlayData_of_not_hasLine hbefore hline 0
  rw [ofSeries.eq_def]
  cases before with
  | nil =>
      rw [List.nil_append] at hdata ⊢
      simp only [hdata]
  | cons first before =>
      rw [List.cons_append] at hdata ⊢
      simp only [hdata]

/-! ### The largest level -/

theorem foldl_max_of_eq {tops : List UInt32} (h : ∀ t ∈ tops, t = top) : tops.foldl max top = top := by
  induction tops with
  | nil => rfl
  | cons t tops ih =>
      have hmax : max top top = top := if_pos (UInt32.le_refl top)
      rw [List.foldl_cons, h t List.mem_cons_self, hmax]
      exact ih fun t ht => h t (List.mem_cons_of_mem _ ht)

/-- The largest level of series that all have the same. -/
theorem largestLevel_of_top (hseries : series ≠ []) (h : ∀ s ∈ series, s.histogram.maxK = some top) :
    largestLevel series = top := by
  have htops : ∀ t ∈ series.map fun s => s.histogram.maxK.getD 0, t = top :=
    List.forall_mem_map.mpr fun s hs => by rw [h s hs, Option.getD_some]
  cases series with
  | nil => exact absurd rfl hseries
  | cons s series =>
      have hmax : max 0 top = top := if_pos UInt32.zero_le
      rw [List.map_cons, List.forall_mem_cons] at htops
      rw [largestLevel, List.map_cons, List.foldl_cons, htops.1, hmax]
      exact foldl_max_of_eq htops.2

/-! ### What the chart shows -/

section Values

variable {α : Type} [Scalar α] [OfScientific α] [Div α]

/-- What an overlay up to a level shows for level `k` of a table of buckets: the number of buckets with `k` items, or
their share in the buckets that are shown at all. -/
def overlayValue (normalize : Bool) (counts : List UInt32) (top k : Nat) : α :=
  if normalize then share counts top k else ofCount (UInt64.ofNat (holding counts k))

theorem overlayValues_upTo {counts : List UInt32} (h : counts.length < 2 ^ 64) (normalize : Bool) (n : Nat) :
    (overlayValues normalize (upTo n counts) : Except Overflow (List α)) =
      .ok ((List.range (n + 1)).map (overlayValue normalize counts n)) := by
  cases normalize with
  | false => exact congrArg Except.ok (values_upTo n counts)
  | true => exact fractions_upTo n h

theorem shownValues_upTo {counts : List UInt32} (h : counts.length < 2 ^ 64) (normalize : Bool) (n : Nat) :
    (shownValues normalize (upTo n counts) : List α) = (List.range (n + 1)).map (overlayValue normalize counts n) := by
  rw [shownValues, overlayValues_upTo h]

end Values

/-- Whether a call puts a series on a drawing, or belongs to one. -/
def isSeriesCall {α : Type} : Call α → Bool
  | .series _ | .label _ | .legend _ => true
  | _ => false

/-- The series of a drawing with their labels and legends. -/
def seriesCalls {α : Type} (drawing : Drawing α) : Drawing α := drawing.filter isSeriesCall

/-- The horizontal axes of a drawing. -/
def levelAxes {α : Type} (drawing : Drawing α) : List (Span α) :=
  drawing.filterMap fun
    | .axes span _ _ => some span
    | _ => none

/-- The points of a table of buckets in an overlay: its values at the levels, on a logarithmic axis the positive ones. -/
def tablePoints (options : Options) (counts : List UInt32) (top : Nat) : List (Point Float) :=
  ((List.range (top + 1)).map fun k => ⟨ofLevel k, overlayValue options.normalizeOverlay counts top k⟩).filter
    fun point => options.scale = .linear ∨ 0.0 < point.y

/-- A drawing that compares tables of buckets up to a level: it has one horizontal axis, and for each table in turn a
line of its own colour with its name, its legend and a marker at each of its points, and no other series. -/
structure Compares (options : Options) (tables : List (String × List UInt32)) (top : UInt32) (drawing : Drawing Float) :
    Prop where
  axis : levelAxes drawing = [⟨-0.5, ofLevel top.toNat + 0.5⟩]
  lines : seriesCalls drawing = tables.zipIdx.flatMap fun ((name, counts), i) =>
    let points := tablePoints options counts top.toNat
    [.series [.path points (.line (.palette i) 2)],
     .label name,
     .legend (.path [⟨0, 0⟩, ⟨20, 0⟩] (.line (.palette i) 2)),
     .series (points.map fun point => .circle point 3 (.solid (.palette i)))]

theorem levelPoints_range (value : Nat → Float) (n : Nat) :
    levelPoints ((List.range n).map value) = (List.range n).map fun k => ⟨ofLevel k, value k⟩ := by
  refine List.ext_getElem? fun k => ?_
  rw [levelPoints, List.getElem?_map, List.getElem?_zipIdx, List.getElem?_map, List.getElem?_map]
  by_cases hk : k < n
  · rw [List.getElem?_range hk]
    simp only [Option.map_some, Nat.zero_add]
  · rw [List.getElem?_eq_none (by rw [List.length_range]; omega)]
    rfl

theorem shownPoints_table {counts : List UInt32} (h : counts.length < 2 ^ 64) (options : Options) (n : Nat) :
    shownPoints options.scale (levelPoints (shownValues options.normalizeOverlay (upTo n counts))) =
      tablePoints options counts n := by
  rw [shownValues_upTo h, levelPoints_range, tablePoints, shownPoints.eq_def]
  cases options.scale with
  | linear => exact (List.filter_eq_self.mpr fun _ _ => rfl).symm
  | logarithmic => simp only [reduceCtorEq, false_or]

section Frame

variable {α : Type} {content : Drawing α} {caption yDescription : String} {xSpan ySpan : Span α} {scale : Scale}
  {maxK : UInt32}

/-- The frame of a chart has no series. -/
theorem seriesCalls_framed :
    seriesCalls (framed caption xSpan scale ySpan maxK yDescription content) = seriesCalls content := by
  rw [framed, seriesCalls, List.filter_append, List.filter_append]
  exact List.append_nil _

/-- The frame of a chart has its axes. -/
theorem levelAxes_framed :
    levelAxes (framed caption xSpan scale ySpan maxK yDescription content) = xSpan :: levelAxes content := by
  rw [framed, levelAxes, List.filterMap_append, List.filterMap_append]
  exact congrArg (xSpan :: ·) (List.append_nil _)

end Frame

section Lines

variable {α : Type} [Scalar α] [OfScientific α] [LT α] [DecidableLT α] {scale : Scale} {lines : List (String × List α)}

theorem isSeriesCall_of_mem {call : Call α} (h : call ∈ overlayLines scale lines) : isSeriesCall call = true := by
  obtain ⟨line, -, hline⟩ := List.mem_flatMap.mp h
  simp only [markedLine, List.mem_cons, List.not_mem_nil, or_false] at hline
  rcases hline with rfl | rfl | rfl | rfl <;> rfl

theorem seriesCalls_overlayLines : seriesCalls (overlayLines scale lines) = overlayLines scale lines :=
  List.filter_eq_self.mpr fun _ => isSeriesCall_of_mem

theorem levelAxes_overlayLines : levelAxes (overlayLines scale lines) = [] := by
  refine List.filterMap_eq_nil_iff.mpr fun call hcall => ?_
  have hseries := isSeriesCall_of_mem hcall
  cases call <;> first | rfl | cases hseries

end Lines

/-- The chart of histograms up to one level compares the tables of buckets that they are of. -/
theorem compares_of_ofSeries (hlimit : ∀ table ∈ tables, table.2.length < 2 ^ 64)
    (h : ofSeries (tables.map fun table => ⟨table.1, upTo top.toNat table.2⟩) options = .ok drawing) :
    Compares options tables top drawing := by
  have htables : tables.map (fun table => (⟨table.1, upTo top.toNat table.2⟩ : Series)) ≠ [] := by
    intro hnil
    rw [hnil] at h
    cases h
  have htop : ∀ s ∈ tables.map (fun table => (⟨table.1, upTo top.toNat table.2⟩ : Series)), s.histogram.maxK = some top := by
    rw [List.forall_mem_map]
    exact fun table _ => maxK_upTo top table.2
  have hlines : ∀ s ∈ tables.map (fun table => (⟨table.1, upTo top.toNat table.2⟩ : Series)),
      HasLine options.normalizeOverlay s.histogram := by
    rw [List.forall_mem_map]
    exact fun table htable => hasLine_upTo (hlimit table htable) _ _
  rw [ofSeries_eq htables hlines, largestLevel_of_top htables htop, seriesLines, List.map_map] at h
  cases h
  refine ⟨?_, ?_⟩
  · rw [overlayDrawing, levelAxes_framed, levelAxes_overlayLines, Axis.levelSpan]
  · rw [overlayDrawing, seriesCalls_framed, seriesCalls_overlayLines, overlayLines, List.zipIdx_map, List.flatMap_map,
      List.flatMap_def, List.flatMap_def]
    refine congrArg List.flatten (List.map_congr_left fun pair hpair => ?_)
    have hlength := hlimit _ (List.fst_mem_of_mem_zipIdx hpair)
    simp only [Prod.map, id, Function.comp, shownPoints_table hlength]
    rfl

end Occupancy.Chart
