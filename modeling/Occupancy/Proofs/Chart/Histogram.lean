import Occupancy.Chart.Histogram
import Occupancy.Proofs.Histogram
import Occupancy.Proofs.Poisson

/-! The chart of an algorithm, read off its calls: its caption, the bars, the points of the line and the markers. On a
linear axis a chart shows each level by itself, so the chart of a histogram that ends early shows the first levels of the
chart of the whole one. -/

namespace Occupancy.Chart

/-! ### What a drawing shows -/

section Views

variable {α : Type}

/-- The elements of all series of a drawing. -/
def elements (drawing : Drawing α) : List (Element α) :=
  drawing.flatMap fun
    | .series elements => elements
    | _ => []

def captions (drawing : Drawing α) : List String :=
  drawing.filterMap fun
    | .caption text _ => some text
    | _ => none

def isRect : Element α → Bool
  | .rect _ _ _ => true
  | _ => false

/-- The bars of a drawing. -/
def rects (drawing : Drawing α) : List (Element α) := (elements drawing).filter isRect

/-- The points that the lines of a drawing go through. -/
def linePoints (drawing : Drawing α) : List (Point α) :=
  (elements drawing).flatMap fun
    | .path points _ => points
    | _ => []

/-- The centers of the circles of a drawing. -/
def markers (drawing : Drawing α) : List (Point α) :=
  (elements drawing).filterMap fun
    | .circle center _ _ => some center
    | _ => none

variable {content : Drawing α} {caption yDescription : String} {xSpan ySpan : Span α} {scale : Scale} {maxK : UInt32}

/-- The frame of a chart has no elements. -/
theorem elements_framed : elements (framed caption xSpan scale ySpan maxK yDescription content) = elements content := by
  rw [framed, elements, List.flatMap_append, List.flatMap_append]
  exact List.append_nil _

theorem captions_framed :
    captions (framed caption xSpan scale ySpan maxK yDescription content) = caption :: captions content := by
  rw [framed, captions, List.filterMap_append, List.filterMap_append]
  exact congrArg (caption :: ·) (List.append_nil _)

theorem elements_append (first second : Drawing α) : elements (first ++ second) = elements first ++ elements second :=
  List.flatMap_append

theorem elements_markedLine (ink : Ink) (radius : Nat) (name : String) (points : List (Point α)) :
    elements (markedLine ink radius name points) =
      .path points (.line ink 2) :: points.map fun point => .circle point radius (.solid ink) := by
  simp only [markedLine, elements, List.flatMap_cons, List.flatMap_nil, List.append_nil, List.nil_append,
    List.singleton_append]

end Views

/-! ### The chart of observed and expected numbers -/

section Bars

variable {α : Type} [Scalar α] [OfScientific α] [Add α] [Sub α] [Neg α] [Mul α] [LT α] [DecidableLT α]
  [LE α] [DecidableLE α] {caption : String} {scale : Scale} {maxK : UInt32} {observed : List (Point α)}
  {expected : Option (List α)}

/-- The lower end of the axis of a chart, from which the bars grow. -/
def baseline (scale : Scale) (observed : List (Point α)) (expected : Option (List α)) : α :=
  (Axis.span scale (observed.map (·.y)) (observed.map (·.y) ++ expected.getD [])).low

/-- The points of the expectation in a chart. There are none if it is not shown. -/
def expectedPoints (scale : Scale) (observed : List (Point α)) (expected : Option (List α)) : List (Point α) :=
  expected.elim [] fun values => shownExpectation scale (baseline scale observed expected) (levelPoints values)

/-- A chart has its bars and then, if the expectation is shown, the line and its markers. -/
theorem elements_histogramDrawing :
    elements (histogramDrawing caption scale maxK observed expected) =
      bars scale (baseline scale observed expected) observed ++
        expected.elim [] fun _ => .path (expectedPoints scale observed expected) (.line .red 2) ::
          (expectedPoints scale observed expected).map fun point => .circle point 4 (.solid .red) := by
  rw [histogramDrawing.eq_def, elements_framed, elements_append]
  congr 1
  · exact List.append_nil _
  · cases expected with
    | none => rfl
    | some values => exact elements_markedLine _ _ _ _

theorem captions_histogramDrawing : captions (histogramDrawing caption scale maxK observed expected) = [caption] := by
  rw [histogramDrawing.eq_def, captions_framed]
  cases expected <;> rfl

omit [Scalar α] [Neg α] [Mul α] [LE α] [DecidableLE α] in
theorem exists_bar_of_mem_bars {low : α} {points : List (Point α)} {element : Element α}
    (h : element ∈ bars scale low points) : ∃ point, element = bar low point := by
  cases scale <;>
    · obtain ⟨point, -, rfl⟩ := List.mem_map.mp h
      exact ⟨point, rfl⟩

theorem rects_histogramDrawing :
    rects (histogramDrawing caption scale maxK observed expected) =
      bars scale (baseline scale observed expected) observed := by
  have hbars : (bars scale (baseline scale observed expected) observed).filter isRect =
      bars scale (baseline scale observed expected) observed := by
    refine List.filter_eq_self.mpr fun element helement => ?_
    obtain ⟨point, rfl⟩ := exists_bar_of_mem_bars helement
    rfl
  rw [rects, elements_histogramDrawing, List.filter_append, hbars]
  cases expected with
  | none => exact List.append_nil _
  | some values => simp [isRect]

theorem linePoints_histogramDrawing :
    linePoints (histogramDrawing caption scale maxK observed expected) = expectedPoints scale observed expected := by
  rw [linePoints, elements_histogramDrawing, List.flatMap_append, List.flatMap_eq_nil_iff.mpr, List.nil_append]
  · cases expected with
    | none => rfl
    | some values => simp
  · intro element helement
    obtain ⟨point, rfl⟩ := exists_bar_of_mem_bars helement
    rfl

theorem markers_histogramDrawing :
    markers (histogramDrawing caption scale maxK observed expected) = expectedPoints scale observed expected := by
  rw [markers, elements_histogramDrawing, List.filterMap_append, List.filterMap_eq_nil_iff.mpr, List.nil_append]
  · cases expected with
    | none => rfl
    | some values =>
        rw [Option.elim_some, List.filterMap_cons_none rfl, List.filterMap_map]
        exact List.filterMap_some
  · intro element helement
    obtain ⟨point, rfl⟩ := exists_bar_of_mem_bars helement
    rfl

end Bars

/-! ### Frequencies as points -/

section Frequencies

variable {α : Type} [Scalar α] {h : Histogram}

theorem length_frequencyPoints (h : Histogram) : (frequencyPoints h : List (Point α)).length = h.frequencies.length := by
  rw [frequencyPoints, List.length_map, Histogram.length_pairs]

/-- The frequencies are drawn as numbers, whatever the levels are. -/
theorem map_y_frequencyPoints (h : Histogram) : (frequencyPoints h : List (Point α)).map (·.y) = h.values := by
  have hfrequencies : h.pairs.map Prod.snd = h.frequencies := by
    rw [Histogram.pairs, List.map_snd_zip (Nat.le_of_eq h.length_levels.symm)]
  calc (frequencyPoints h : List (Point α)).map (·.y)
      = (h.pairs.map Prod.snd).map ofCount := by rw [frequencyPoints, List.map_map, List.map_map]; rfl
    _ = h.values := by rw [hfrequencies]; rfl

theorem frequencyPoints_truncated (h : Histogram) (top : UInt32) :
    (frequencyPoints (h.truncated top) : List (Point α)) = (frequencyPoints h).take (top.toNat + 1) := by
  rw [frequencyPoints, frequencyPoints, Histogram.pairs_truncated, List.map_take]

theorem baseline_frequencyPoints [OfScientific α] [Mul α] [LT α] [DecidableLT α] (scale : Scale) (h : Histogram)
    (expected : Option (List α)) :
    baseline scale (frequencyPoints h) expected = (Axis.span scale h.values (h.values ++ expected.getD [])).low := by
  rw [baseline, map_y_frequencyPoints]

/-- As long as levels can be told apart by 32-bit numbers, the level of a frequency is its place. -/
theorem frequencyPoints_eq_levelPoints (hlevels : h.frequencies.length ≤ 2 ^ 32) :
    (frequencyPoints h : List (Point α)) = levelPoints h.values := by
  refine List.ext_getElem? fun k => ?_
  rw [frequencyPoints, List.getElem?_map, levelPoints, List.getElem?_map, List.getElem?_zipIdx, Histogram.values,
    List.getElem?_map]
  by_cases hk : k < h.frequencies.length
  · have hlevel : (UInt32.ofNat k).toNat = k := UInt32.toNat_ofNat_of_lt' (Nat.lt_of_lt_of_le hk hlevels)
    rw [Histogram.getElem?_pairs (List.getElem?_eq_getElem hk), List.getElem?_eq_getElem hk]
    simp only [Option.map_some, hlevel, Nat.zero_add]
  · have hpairs : h.pairs.length ≤ k := by rw [Histogram.length_pairs]; exact Nat.not_lt.mp hk
    rw [List.getElem?_eq_none hpairs, List.getElem?_eq_none (Nat.not_lt.mp hk)]
    rfl

end Frequencies

/-! ### The first levels on a linear axis -/

theorem levelPoints_take {α : Type} [Scalar α] (values : List α) (n : Nat) :
    levelPoints (values.take n) = (levelPoints values).take n := by
  refine List.ext_getElem? fun k => ?_
  simp only [levelPoints, List.getElem?_map, List.getElem?_zipIdx, List.getElem?_take]
  by_cases hk : k < n
  · simp only [if_pos hk]
  · simp only [if_neg hk, Option.map_none]

/-- One chart shows the first `n` levels of another. They have the same caption, and the bars of the one are the first `n`
bars of the other, as are the points of its line and the markers at them if the expectation is shown. -/
structure ShowsFirst (options : Options) (n : Nat) (front whole : Drawing Float) : Prop where
  captions : captions front = captions whole
  bars : rects front = (rects whole).take n
  line : linePoints front = (linePoints whole).take n
  markers : markers front = (markers whole).take n
  barCount : (rects front).length = n
  pointCount : options.showPoisson = true → (linePoints front).length = n

/-- The bars on a linear axis all grow from zero, and none is left out. -/
theorem bars_linear (observed : List (Point Float)) (expected : Option (List Float)) :
    bars .linear (baseline .linear observed expected) observed = observed.map (bar 0.0) := rfl

theorem expectedPoints_linear (observed : List (Point Float)) (expected : Option (List Float)) :
    expectedPoints .linear observed expected = expected.elim [] levelPoints := by
  cases expected <;> rfl

/-- The expectation in the chart of a histogram with the given largest level. -/
def shownExpected (options : Options) (d : Descriptor) (maxK : UInt32) : Option (List Float) :=
  if options.showPoisson then some (Poisson.expected maxK d.rate d.numBuckets) else none

theorem ofHistogram_eq {d : Descriptor} {h : Histogram} {maxK : UInt32} (hmaxK : h.maxK = some maxK) (options : Options) :
    ofHistogram d h options =
      .ok (histogramDrawing (title d) options.scale maxK (frequencyPoints h) (shownExpected options d maxK)) := by
  rw [ofHistogram, hmaxK]
  rfl

theorem levelPoints_shownExpected {d : Descriptor} {options : Options} {top higher : UInt32} (hle : top ≤ higher) :
    (shownExpected options d top).elim [] levelPoints =
      ((shownExpected options d higher).elim [] levelPoints).take (top.toNat + 1) := by
  rw [shownExpected, shownExpected]
  cases options.showPoisson with
  | false => rfl
  | true =>
      simp only [if_true, Option.elim_some]
      rw [← levelPoints_take, Poisson.take_expected hle]

/-- On a linear axis, the chart of the first levels of a histogram shows the first levels of its chart. -/
theorem exists_showsFirst (d : Descriptor) {h : Histogram} {top higher : UInt32}
    (hlength : h.frequencies.length = higher.toNat + 1) (hle : top ≤ higher) {options : Options}
    (hscale : options.scale = .linear) :
    ∃ front whole, ofHistogram d (h.truncated top) options = .ok front ∧ ofHistogram d h options = .ok whole ∧
      ShowsFirst options (top.toNat + 1) front whole := by
  have htop := Histogram.length_truncated hlength (UInt32.le_iff_toNat_le.mp hle)
  refine ⟨_, _, ofHistogram_eq (Histogram.maxK_of_length htop) options,
    ofHistogram_eq (Histogram.maxK_of_length hlength) options, ?_⟩
  rw [hscale]
  constructor
  · rw [captions_histogramDrawing, captions_histogramDrawing]
  · rw [rects_histogramDrawing, rects_histogramDrawing, bars_linear, bars_linear, frequencyPoints_truncated, List.map_take]
  · rw [linePoints_histogramDrawing, linePoints_histogramDrawing, expectedPoints_linear, expectedPoints_linear,
      levelPoints_shownExpected hle]
  · rw [markers_histogramDrawing, markers_histogramDrawing, expectedPoints_linear, expectedPoints_linear,
      levelPoints_shownExpected hle]
  · rw [rects_histogramDrawing, bars_linear, List.length_map, length_frequencyPoints, htop]
  · intro hshown
    rw [linePoints_histogramDrawing, expectedPoints_linear, shownExpected, if_pos hshown, Option.elim_some, levelPoints,
      List.length_map, List.length_zipIdx, Poisson.length_expected]

end Occupancy.Chart
