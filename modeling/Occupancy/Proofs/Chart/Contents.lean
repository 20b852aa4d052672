import Occupancy.Chart.Surface
import Occupancy.Proofs.Binary64.Magnitude
import Occupancy.Proofs.Chart.Histogram
import Occupancy.Proofs.Chart.Overlay

/-! What is in the chart of an algorithm. The frequencies and the expectations become points with their levels before those
are left out that a logarithmic axis cannot show. So whatever is left out, the others are drawn at their own levels. -/

namespace Occupancy.Chart

/-! ### Vertical axes and lines of a drawing -/

section Views

variable {α : Type}

/-- The vertical axes of a drawing with their scales. -/
def valueAxes (drawing : Drawing α) : List (Scale × Span α) :=
  drawing.filterMap fun
    | .axes _ scale span => some (scale, span)
    | _ => none

/-- The lines of a drawing, each by the points that it goes through. -/
def paths (drawing : Drawing α) : List (List (Point α)) :=
  (elements drawing).filterMap fun
    | .path points _ => some points
    | _ => none

theorem valueAxes_framed {content : Drawing α} {caption yDescription : String} {xSpan ySpan : Span α} {scale : Scale}
    {maxK : UInt32} :
    valueAxes (framed caption xSpan scale ySpan maxK yDescription content) = (scale, ySpan) :: valueAxes content := by
  rw [framed, valueAxes, List.filterMap_append, List.filterMap_append]
  exact congrArg ((scale, ySpan) :: ·) (List.append_nil _)

variable [Scalar α] [OfScientific α] [Add α] [Sub α] [Neg α] [Mul α] [LT α] [DecidableLT α] [LE α] [DecidableLE α]
  {caption : String} {scale : Scale} {maxK : UInt32} {observed : List (Point α)} {expected : Option (List α)}

theorem valueAxes_histogramDrawing :
    valueAxes (histogramDrawing caption scale maxK observed expected) =
      [(scale, Axis.span scale (observed.map (·.y)) (observed.map (·.y) ++ expected.getD []))] := by
  rw [histogramDrawing.eq_def, valueAxes_framed]
  cases expected <;> rfl

theorem paths_histogramDrawing :
    paths (histogramDrawing caption scale maxK observed expected) =
      expected.elim [] fun _ => [expectedPoints scale observed expected] := by
  rw [paths, elements_histogramDrawing, List.filterMap_append, List.filterMap_eq_nil_iff.mpr, List.nil_append]
  · cases expected with
    | none => rfl
    | some values => simp
  · intro element helement
    obtain ⟨point, rfl⟩ := exists_bar_of_mem_bars helement
    rfl

end Views

/-! ### Bars and expectations by their levels -/

variable {h : Histogram} {maxK : UInt32} {values : List Float}

/-- The levels that an axis shows: a linear one all of them, a logarithmic one those that are `visible` on it. -/
def shownLevels (scale : Scale) (maxK : UInt32) (visible : Nat → Prop) [DecidablePred visible] : List Nat :=
  match scale with
  | .linear => List.range (maxK.toNat + 1)
  | .logarithmic => (List.range (maxK.toNat + 1)).filter visible

theorem levelPoints_eq_range (hlength : values.length = maxK.toNat + 1) :
    levelPoints values = (List.range (maxK.toNat + 1)).map fun k => ⟨ofLevel k, values.getD k 0.0⟩ := by
  have hvalues : values = (List.range (maxK.toNat + 1)).map (values.getD · 0.0) := by
    refine List.ext_getElem (by rw [List.length_map, List.length_range, hlength]) fun k hk _ => ?_
    rw [List.getElem_map, List.getElem_range, List.getD_eq_getElem values 0.0 hk]
  rw [← levelPoints_range, ← hvalues]

theorem getD_values (h : Histogram) (k : Nat) : h.values.getD k (0.0 : Float) = ofCount (h.frequencies.getD k 0) :=
  List.getD_map h.frequencies 0 ofCount

/-- The bar of a level in a chart whose axis starts at `low`. -/
def levelBar (h : Histogram) (low : Float) (k : Nat) : Element Float :=
  .rect ⟨ofLevel k - 0.4, low⟩ ⟨ofLevel k + 0.4, ofCount (h.frequencies.getD k 0)⟩ barStyle

/-- A logarithmic axis has the bars of the levels that some bucket is at: a frequency is positive as a binary64 number
exactly if it is positive. -/
theorem bars_eq_shownLevels (hlength : h.frequencies.length = maxK.toNat + 1) (scale : Scale) (low : Float) :
    bars scale low (frequencyPoints h) =
      (shownLevels scale maxK fun k => 0 < h.frequencies.getD k 0).map (levelBar h low) := by
  have hpoints : frequencyPoints h = (List.range (maxK.toNat + 1)).map fun k =>
      (⟨ofLevel k, ofCount (h.frequencies.getD k 0)⟩ : Point Float) := by
    rw [frequencyPoints_eq_levelPoints (hlength.trans_le maxK.toNat_lt),
      levelPoints_eq_range (by rw [Histogram.values, List.length_map, hlength])]
    simp only [getD_values]
  rw [hpoints]
  cases scale with
  | linear => exact List.map_map
  | logarithmic =>
      have hvisible : ∀ k ∈ List.range (maxK.toNat + 1),
          decide ((0.0 : Float) < ofCount (h.frequencies.getD k 0)) = decide (0 < h.frequencies.getD k 0) :=
        fun k _ => decide_eq_decide.mpr (Binary64.zero_lt_toFloat_iff _)
      rw [bars, List.filter_map, List.map_map]
      exact congrArg (List.map (levelBar h low)) (List.filter_congr hvisible)

theorem shownExpectation_eq_shownLevels (hlength : values.length = maxK.toNat + 1) (scale : Scale) (low : Float) :
    shownExpectation scale low (levelPoints values) =
      (shownLevels scale maxK fun k => low ≤ values.getD k 0.0).map fun k => ⟨ofLevel k, values.getD k 0.0⟩ := by
  rw [levelPoints_eq_range hlength]
  cases scale with
  | linear => rfl
  | logarithmic => exact List.filter_map

/-- A drawing shows the frequencies of a histogram and, if they are wanted, the expectations at its levels. It has one
vertical axis, and on it the bars of the levels and a line through the expectations with a marker at each of its points; a
logarithmic axis leaves out the levels without a bucket and the expectations below its lower end, a linear one starts at
zero and leaves out nothing. -/
structure ShowsData (options : Options) (h : Histogram) (maxK : UInt32) (expectations : List Float)
    (drawing : Drawing Float) (axis : Span Float) : Prop where
  levelCount : h.frequencies.length = maxK.toNat + 1
  expectationCount : expectations.length = maxK.toNat + 1
  axes : valueAxes drawing = [(options.scale, axis)]
  zero : options.scale = .linear → axis.low = 0.0
  bars : rects drawing = (shownLevels options.scale maxK fun k => 0 < h.frequencies.getD k 0).map (levelBar h axis.low)
  line : paths drawing = if options.showPoisson then
      [(shownLevels options.scale maxK fun k => axis.low ≤ expectations.getD k 0.0).map fun k =>
        ⟨ofLevel k, expectations.getD k 0.0⟩]
    else []
  markers : markers drawing = linePoints drawing

theorem showsData_histogramDrawing (d : Descriptor) (hlength : h.frequencies.length = maxK.toNat + 1) (options : Options)
    (caption : String) :
    ShowsData options h maxK (Poisson.expected maxK d.rate d.numBuckets)
      (histogramDrawing caption options.scale maxK (frequencyPoints h) (shownExpected options d maxK))
      (Axis.span options.scale h.values (h.values ++ (shownExpected options d maxK).getD [])) where
  levelCount := hlength
  expectationCount := Poisson.length_expected _ _ _
  axes := by rw [valueAxes_histogramDrawing, map_y_frequencyPoints]
  zero hscale := by rw [hscale]; rfl
  bars := by rw [rects_histogramDrawing, bars_eq_shownLevels hlength, baseline_frequencyPoints]
  line := by
    rw [paths_histogramDrawing]
    cases hshown : options.showPoisson with
    | false => rw [shownExpected, hshown]; rfl
    | true =>
        have hexpected : shownExpected options d maxK = some (Poisson.expected maxK d.rate d.numBuckets) := if_pos hshown
        rw [hexpected, Option.elim_some, expectedPoints, Option.elim_some,
          shownExpectation_eq_shownLevels (Poisson.length_expected _ _ _), baseline_frequencyPoints]
        rfl
  markers := by rw [markers_histogramDrawing, linePoints_histogramDrawing]

/-- **A chart shows its data.** The chart of an algorithm with any histogram whose levels are 32-bit numbers, if it has any
level, shows the frequencies of the histogram and the expectations at the algorithm's rate up to the largest level. -/
theorem chart_shows_data (d : Descriptor) (hlevels : h.frequencies ≠ []) (hlength : h.frequencies.length ≤ 2 ^ 32)
    (options : Options) :
    ∃ maxK drawing axis, h.maxK = some maxK ∧ ofHistogram d h options = .ok drawing ∧
      (∀ files surface dir, drawHistogram files surface d h options dir =
        draw files surface (dir.join ⟨fileName d.algorithm⟩) drawing) ∧
      ShowsData options h maxK (Poisson.expected maxK d.rate d.numBuckets) drawing axis := by
  obtain ⟨maxK, hlength⟩ : ∃ maxK : UInt32, h.frequencies.length = maxK.toNat + 1 := by
    have hpositive : 0 < h.frequencies.length := List.length_pos_iff.mpr hlevels
    refine ⟨UInt32.ofNat (h.frequencies.length - 1), ?_⟩
    rw [UInt32.toNat_ofNat_of_lt' (by show _ < 2 ^ 32; omega)]
    omega
  have hmaxK := Histogram.maxK_of_length hlength
  have hchart := ofHistogram_eq (d := d) hmaxK options
  refine ⟨maxK, _, _, hmaxK, hchart, fun files surface dir => ?_, showsData_histogramDrawing d hlength options _⟩
  rw [drawHistogram, hchart, drawIfAny]

/-- Of three levels, a logarithmic axis has the bars of the first and the last, where there are buckets. -/
theorem chart_shows_data_gap :
    ∃ drawing axis,
      ofHistogram ⟨"fnv", 5, 7, "fnv.bin", "int32", none⟩ ⟨[3, 0, 2]⟩ ⟨.logarithmic, false, true⟩ = .ok drawing ∧
      valueAxes drawing = [(.logarithmic, axis)] ∧ paths drawing = [] ∧
      rects drawing = [.rect ⟨ofLevel 0 - 0.4, axis.low⟩ ⟨ofLevel 0 + 0.4, 3.0⟩ barStyle,
        .rect ⟨ofLevel 2 - 0.4, axis.low⟩ ⟨ofLevel 2 + 0.4, 2.0⟩ barStyle] := by
  obtain ⟨maxK, drawing, axis, hmaxK, hchart, -, hshows⟩ := chart_shows_data (h := ⟨[3, 0, 2]⟩)
    ⟨"fnv", 5, 7, "fnv.bin", "int32", none⟩ (List.cons_ne_nil _ _) (by decide) ⟨.logarithmic, false, true⟩
  cases hmaxK
  exact ⟨drawing, axis, hchart, hshows.axes, hshows.line, hshows.bars⟩

end Occupancy.Chart
