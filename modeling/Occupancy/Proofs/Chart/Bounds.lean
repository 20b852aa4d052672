import Mathlib
import Occupancy.Proofs.Chart.Axis
import Occupancy.Proofs.Chart.Contents
import Occupancy.Proofs.Histogram.Fractions
import Occupancy.Proofs.Histogram.Tally

/-! Whether charts have room for what they show. The axes are laid out from the values before any are left out, and bars,
lines and markers are drawn from those that are left; over the rationals all of them lie within the axes. On a logarithmic
axis no level is lost that has any bucket. -/

namespace Occupancy.Chart

open Histogram

variable {scale : Scale} {maxK start : UInt32} {axis xSpan ySpan : Span ℚ} {low value : ℚ} {values : List ℚ}
  {point : Point ℚ} {points : List (Point ℚ)} {element : Element ℚ} {h : Histogram} {series : List Series}

/-- The points that say where an element is. -/
def corners {α : Type} : Element α → List (Point α)
  | .rect corner opposite _ => [corner, opposite]
  | .path points _ => points
  | .circle center _ _ => [center]

/-- A point within the spans of both axes. -/
structure Inside (xSpan ySpan : Span ℚ) (point : Point ℚ) : Prop where
  left : xSpan.low ≤ point.x
  right : point.x ≤ xSpan.high
  bottom : ySpan.low ≤ point.y
  top : point.y ≤ ySpan.high

/-! ### Points -/

theorem levelSpan_rat (maxK : UInt32) : (Axis.levelSpan maxK : Span ℚ) = ⟨-0.5, maxK.toNat + 0.5⟩ := by
  have hlimit := maxK.toNat_lt
  rw [Axis.levelSpan, ofLevel_rat (by omega)]

/-- The points of levels up to `maxK` lie between the first and the last of them. -/
theorem bounds_of_mem_levelPoints (hlength : values.length ≤ maxK.toNat + 1) (hmem : point ∈ levelPoints values) :
    0 ≤ point.x ∧ point.x ≤ maxK.toNat ∧ point.y ∈ values := by
  obtain ⟨⟨value, k⟩, hpair, rfl⟩ := List.mem_map.mp hmem
  have hk : k < values.length := List.snd_lt_of_mem_zipIdx hpair
  have hlimit := maxK.toNat_lt
  have hle : (k : ℚ) ≤ maxK.toNat := by exact_mod_cast Nat.le_of_lt_succ (Nat.lt_of_lt_of_le hk hlength)
  have hx : (ofLevel k : ℚ) = k := ofLevel_rat (by omega)
  exact ⟨k.cast_nonneg.trans_eq hx.symm, hx.trans_le hle, List.fst_mem_of_mem_zipIdx hpair⟩

theorem inside_levelPoint (hlength : values.length ≤ maxK.toNat + 1) (hmem : point ∈ levelPoints values)
    (hlow : axis.low ≤ point.y) (hhigh : ∀ value ∈ values, value ≤ axis.high) :
    Inside ⟨-0.5, maxK.toNat + 0.5⟩ axis point := by
  obtain ⟨hleft, hright, hy⟩ := bounds_of_mem_levelPoints hlength hmem
  refine ⟨?_, ?_, hlow, hhigh _ hy⟩ <;> norm_num <;> linarith

/-! ### Elements -/

/-- A line and its markers are where its points are. -/
theorem inside_line {line marker : Style} {radius : Nat} (hpoints : ∀ point ∈ points, Inside xSpan ySpan point)
    (hmem : element ∈ Element.path points line :: points.map fun point => .circle point radius marker) :
    ∀ point ∈ corners element, Inside xSpan ySpan point := by
  rcases List.mem_cons.mp hmem with rfl | hmarker
  · exact hpoints
  · obtain ⟨center, hcenter, rfl⟩ := List.mem_map.mp hmarker
    intro point hpoint
    rw [List.mem_singleton.mp hpoint]
    exact hpoints center hcenter

theorem exists_of_mem_bars (hmem : element ∈ bars scale low points) :
    ∃ point ∈ points, (scale = .logarithmic → 0 < point.y) ∧ element = bar low point := by
  cases scale with
  | linear =>
      obtain ⟨point, hpoint, rfl⟩ := List.mem_map.mp hmem
      exact ⟨point, hpoint, nofun, rfl⟩
  | logarithmic =>
      obtain ⟨point, hpoint, rfl⟩ := List.mem_map.mp hmem
      obtain ⟨hpoint, hpos⟩ := List.mem_filter.mp hpoint
      refine ⟨point, hpoint, fun _ => ?_, rfl⟩
      simpa using hpos

/-- A bar takes up less than the place of its level, from the lower end of the axis to its value. -/
theorem inside_bar (hlength : values.length ≤ maxK.toNat + 1) (hmem : point ∈ levelPoints values)
    (hlow : axis.low ≤ point.y) (hhigh : ∀ value ∈ values, value ≤ axis.high) :
    ∀ corner ∈ corners (bar axis.low point), Inside ⟨-0.5, maxK.toNat + 0.5⟩ axis corner := by
  obtain ⟨hleft, hright, hy⟩ := bounds_of_mem_levelPoints hlength hmem
  have htop := hhigh _ hy
  intro corner hcorner
  simp only [corners, bar, List.mem_cons, List.not_mem_nil, or_false] at hcorner
  rcases hcorner with rfl | rfl
  · constructor <;> norm_num <;> linarith
  · constructor <;> norm_num <;> linarith

/-! ### Axes -/

/-- The values of a histogram are seen above `low` if they are positive, and those of all levels are that have any
bucket. -/
structure SeenAbove (low : ℚ) (h : Histogram) (values : List ℚ) : Prop where
  positive : ∀ value ∈ values, 0 < value → low < value
  levels : ∀ (k : Nat) f, h.frequencies[k]? = some f → f ≠ 0 → ∃ value, values[k]? = some value ∧ low < value

/-- A drawing with axes that fit: one for the levels up to `maxK`, half a level wider at either end, and one for values that
goes up, from zero if it is linear and from a positive number if it is logarithmic. Everything that is drawn lies within
them, and on a logarithmic axis the shown values of the histograms are seen. -/
structure Fits (scale : Scale) (maxK : UInt32) (shown : List (Histogram × List ℚ)) (drawing : Drawing ℚ)
    (axis : Span ℚ) : Prop where
  levelAxis : levelAxes drawing = [⟨-0.5, maxK.toNat + 0.5⟩]
  valueAxis : valueAxes drawing = [(scale, axis)]
  upward : axis.low < axis.high
  linear : scale = .linear → axis.low = 0
  logarithmic : scale = .logarithmic → 0 < axis.low
  inside : ∀ element ∈ elements drawing, ∀ point ∈ corners element, Inside ⟨-0.5, maxK.toNat + 0.5⟩ axis point
  seen : scale = .logarithmic → ∀ pair ∈ shown, SeenAbove axis.low pair.1 pair.2

theorem seenAbove_floor {visible : List ℚ} (hvisible : ∀ value ∈ values, value ∈ visible)
    (hlevels : ∀ (k : Nat) f, h.frequencies[k]? = some f → f ≠ 0 → ∃ value, values[k]? = some value ∧ 0 < value) :
    SeenAbove (Axis.floor visible) h values where
  positive value hmem hpos := Axis.floor_lt (hvisible value hmem) hpos
  levels k f hk hf := by
    obtain ⟨value, hvalue, hpos⟩ := hlevels k f hk hf
    exact ⟨value, hvalue, Axis.floor_lt (hvisible value (List.mem_of_getElem? hvalue)) hpos⟩

/-! ### The chart of an algorithm -/

theorem values_nonneg (hmem : value ∈ (h.values : List ℚ)) : 0 ≤ value := by
  obtain ⟨f, -, rfl⟩ := List.mem_map.mp hmem
  exact f.toNat.cast_nonneg

theorem exists_pos_value {k : Nat} {f : UInt64} (hk : h.frequencies[k]? = some f) (hf : f ≠ 0) :
    ∃ value, (h.values : List ℚ)[k]? = some value ∧ 0 < value := by
  refine ⟨f.toNat, ?_, ?_⟩
  · rw [Histogram.values, List.getElem?_map, hk, Option.map_some, ofCount_rat]
  · exact_mod_cast Nat.pos_of_ne_zero fun hzero => hf (UInt64.toNat_inj.mp hzero)

theorem levelAxes_histogramDrawing {caption : String} {observed : List (Point ℚ)} {expected : Option (List ℚ)} :
    levelAxes (histogramDrawing caption scale maxK observed expected) = [Axis.levelSpan maxK] := by
  rw [histogramDrawing.eq_def, levelAxes_framed]
  cases expected <;> rfl

/-- The part of the expectation that is shown lies on the axis. -/
theorem inside_expectedPoints {expected : Option (List ℚ)}
    (hlength : ∀ values ∈ expected, values.length ≤ maxK.toNat + 1) (hnonneg : ∀ values ∈ expected, ∀ e ∈ values, 0 ≤ e) :
    ∀ point ∈ expectedPoints scale (frequencyPoints h) expected,
      Inside ⟨-0.5, maxK.toNat + 0.5⟩ (Axis.span scale h.values (h.values ++ expected.getD [])) point := by
  cases expected with
  | none => exact List.forall_mem_nil _
  | some values =>
      have hlength := hlength values rfl
      have hnonneg := hnonneg values rfl
      have hhigh : ∀ value ∈ values, value ≤ (Axis.span scale h.values (h.values ++ values)).high :=
        fun value hmem => Axis.le_high scale h.values (List.mem_append_right _ hmem)
      intro point hpoint
      rw [expectedPoints, Option.elim_some, baseline_frequencyPoints] at hpoint
      cases scale with
      | linear =>
          have hmem : point ∈ levelPoints values := hpoint
          refine inside_levelPoint hlength hmem ?_ hhigh
          rw [Axis.low_linear]
          exact hnonneg _ (bounds_of_mem_levelPoints hlength hmem).2.2
      | logarithmic =>
          obtain ⟨hmem, hlow⟩ := List.mem_filter.mp hpoint
          exact inside_levelPoint hlength hmem (of_decide_eq_true hlow) hhigh

theorem fits_histogramDrawing (hlength : h.frequencies.length = maxK.toNat + 1) {expected : Option (List ℚ)}
    (hexpected : ∀ values ∈ expected, values.length = h.frequencies.length ∧ ∀ e ∈ values, 0 ≤ e) (caption : String)
    (scale : Scale) :
    Fits scale maxK [(h, h.values)] (histogramDrawing caption scale maxK (frequencyPoints h) expected)
      (Axis.span scale h.values (h.values ++ expected.getD [])) where
  levelAxis := by rw [levelAxes_histogramDrawing, levelSpan_rat]
  valueAxis := by rw [valueAxes_histogramDrawing, map_y_frequencyPoints]
  upward := Axis.low_lt_high _ _ _
  linear hscale := by rw [hscale, Axis.low_linear]
  logarithmic hscale := by
    rw [hscale, Axis.low_logarithmic]
    exact Axis.floor_pos _
  inside := by
    have hvalues : (h.values : List ℚ).length ≤ maxK.toNat + 1 := by rw [Histogram.values, List.length_map, hlength]
    have hhigh : ∀ value ∈ (h.values : List ℚ), value ≤ (Axis.span scale h.values (h.values ++ expected.getD [])).high :=
      fun value hmem => Axis.le_high scale _ (List.mem_append_left _ hmem)
    intro element helement
    rw [elements_histogramDrawing] at helement
    rcases List.mem_append.mp helement with hbar | hline
    · rw [baseline_frequencyPoints] at hbar
      obtain ⟨point, hpoint, hpos, rfl⟩ := exists_of_mem_bars hbar
      rw [frequencyPoints_eq_levelPoints (hlength.trans_le maxK.toNat_lt)] at hpoint
      have hy := (bounds_of_mem_levelPoints hvalues hpoint).2.2
      exact inside_bar hvalues hpoint (Axis.low_le hy (values_nonneg hy) hpos) hhigh
    · cases expected with
      | none => cases hline
      | some values =>
          refine inside_line (inside_expectedPoints ?_ ?_) hline
          · exact fun values hvalues => ((hexpected values hvalues).1.trans hlength).le
          · exact fun values hvalues => (hexpected values hvalues).2
  seen := by
    rintro rfl pair hpair
    rw [List.mem_singleton.mp hpair]
    exact seenAbove_floor (fun _ => id) fun k f => exists_pos_value

/-! ### The overlay -/

theorem le_foldl_max (tops : List UInt32) (start : UInt32) :
    start ≤ tops.foldl max start ∧ ∀ top ∈ tops, top ≤ tops.foldl max start := by
  induction tops generalizing start with
  | nil => exact ⟨UInt32.le_refl start, List.forall_mem_nil _⟩
  | cons top tops ih =>
      obtain ⟨hboth, hrest⟩ := ih (max start top)
      obtain ⟨hstart, htop⟩ := Std.max_le_iff.mp hboth
      exact ⟨hstart, List.forall_mem_cons.mpr ⟨htop, hrest⟩⟩

/-- No series has a level above the largest. -/
theorem le_largestLevel {s : Series} (hs : s ∈ series) : s.histogram.maxK.getD 0 ≤ largestLevel series :=
  (le_foldl_max _ 0).2 _ (List.mem_map_of_mem hs)

/-- If 64 bits can hold the total, the fractions that are shown are the shares of the levels. -/
theorem shownValues_rat (hsum : h.sum < 2 ^ 64) (normalize : Bool) :
    (shownValues normalize h : List ℚ) = if normalize then h.shares else h.values := by
  cases normalize with
  | false => rfl
  | true =>
      have hfractions : (overlayValues true h : Except Overflow (List ℚ)) = .ok h.shares := fractions_of_lt hsum
      rw [shownValues, hfractions]
      rfl

theorem length_shownValues (hsum : h.sum < 2 ^ 64) (normalize : Bool) :
    (shownValues normalize h : List ℚ).length = h.frequencies.length := by
  rw [shownValues_rat hsum]
  cases normalize with
  | false => exact List.length_map _
  | true => exact (areFractions_shares h).length

theorem shownValues_nonneg (hsum : h.sum < 2 ^ 64) {normalize : Bool} (hmem : value ∈ (shownValues normalize h : List ℚ)) :
    0 ≤ value := by
  rw [shownValues_rat hsum] at hmem
  cases normalize with
  | false => exact values_nonneg hmem
  | true => exact ((areFractions_shares h).bounds value hmem).1

/-- No level with any bucket has the fraction zero. -/
theorem exists_pos_shownValue (hsum : h.sum < 2 ^ 64) (normalize : Bool) {k : Nat} {f : UInt64}
    (hk : h.frequencies[k]? = some f) (hf : f ≠ 0) :
    ∃ value, (shownValues normalize h : List ℚ)[k]? = some value ∧ 0 < value := by
  rw [shownValues_rat hsum]
  cases normalize with
  | false => exact exists_pos_value hk hf
  | true =>
      have hmem := List.mem_of_getElem? hk
      refine ⟨_, (areFractions_shares h).quotient k f hk, lt_of_le_of_ne (share_mem_unit hmem).1 ?_⟩
      rw [ne_eq, eq_comm, share_eq_zero_iff hmem]
      exact hf

theorem valueAxes_overlayLines {lines : List (String × List ℚ)} : valueAxes (overlayLines scale lines) = [] := by
  refine List.filterMap_eq_nil_iff.mpr fun call hcall => ?_
  have hseries := isSeriesCall_of_mem hcall
  cases call <;> first | rfl | cases hseries

/-- What the overlay draws belongs to one of its lines. -/
theorem exists_of_mem_elements_overlayLines {lines : List (String × List ℚ)}
    (hmem : element ∈ elements (overlayLines scale lines)) :
    ∃ line ∈ lines, ∃ ink, element ∈ Element.path (shownPoints scale (levelPoints line.2)) (.line ink 2) ::
      (shownPoints scale (levelPoints line.2)).map fun point => .circle point 3 (.solid ink) := by
  rw [elements, overlayLines, List.flatMap_assoc, List.mem_flatMap] at hmem
  obtain ⟨⟨line, index⟩, hline, helement⟩ := hmem
  exact ⟨line, List.fst_mem_of_mem_zipIdx hline, .palette index, by rwa [← elements_markedLine]⟩

theorem of_mem_shownPoints (hmem : point ∈ shownPoints scale points) :
    point ∈ points ∧ (scale = .logarithmic → 0 < point.y) := by
  cases scale with
  | linear => exact ⟨hmem, nofun⟩
  | logarithmic =>
      obtain ⟨hmem, hpos⟩ := List.mem_filter.mp hmem
      refine ⟨hmem, fun _ => ?_⟩
      simpa using hpos

theorem inside_shownPoints (hlength : values.length ≤ maxK.toNat + 1) (hnonneg : ∀ value ∈ values, 0 ≤ value)
    {visible : List ℚ} (hvisible : ∀ value ∈ values, value ∈ visible) :
    ∀ point ∈ shownPoints scale (levelPoints values),
      Inside ⟨-0.5, maxK.toNat + 0.5⟩ (Axis.span scale visible visible) point := by
  intro point hpoint
  obtain ⟨hmem, hpos⟩ := of_mem_shownPoints hpoint
  have hy := (bounds_of_mem_levelPoints hlength hmem).2.2
  apply inside_levelPoint hlength hmem
  · exact Axis.low_le (hvisible _ hy) (hnonneg _ hy) hpos
  · exact fun value hvalue => Axis.le_high scale visible (hvisible value hvalue)

theorem fits_overlayDrawing (hlength : ∀ s ∈ series, s.histogram.frequencies.length ≤ maxK.toNat + 1)
    (hsum : ∀ s ∈ series, s.histogram.sum < 2 ^ 64) (scale : Scale) (normalize : Bool) :
    Fits scale maxK (series.map fun s => (s.histogram, shownValues normalize s.histogram))
      (overlayDrawing scale normalize maxK (seriesLines normalize series))
      (Axis.span scale ((seriesLines normalize series).flatMap (·.2)) ((seriesLines normalize series).flatMap (·.2))) where
  levelAxis := by rw [overlayDrawing, levelAxes_framed, levelAxes_overlayLines, levelSpan_rat]
  valueAxis := by rw [overlayDrawing, valueAxes_framed, valueAxes_overlayLines]
  upward := Axis.low_lt_high _ _ _
  linear hscale := by rw [hscale, Axis.low_linear]
  logarithmic hscale := by
    rw [hscale, Axis.low_logarithmic]
    exact Axis.floor_pos _
  inside := by
    intro element helement
    rw [overlayDrawing, elements_framed] at helement
    obtain ⟨line, hline, ink, hmem⟩ := exists_of_mem_elements_overlayLines helement
    refine inside_line (inside_shownPoints ?_ ?_ fun value hvalue => List.mem_flatMap.mpr ⟨line, hline, hvalue⟩) hmem
    · obtain ⟨s, hs, rfl⟩ := List.mem_map.mp hline
      rw [length_shownValues (hsum s hs)]
      exact hlength s hs
    · obtain ⟨s, hs, rfl⟩ := List.mem_map.mp hline
      exact fun value => shownValues_nonneg (hsum s hs)
  seen := by
    rintro rfl pair hpair
    obtain ⟨s, hs, rfl⟩ := List.mem_map.mp hpair
    refine seenAbove_floor (fun value hvalue => ?_) fun k f => exists_pos_shownValue (hsum s hs) normalize
    exact List.mem_flatMap.mpr ⟨_, List.mem_map_of_mem hs, hvalue⟩

/-- **Charts have room for what they show.** Over the rationals, the chart of a histogram that has levels, no more than can
be told apart by 32-bit numbers, fits its axes with any expectation that is nowhere negative, shown or not. So does the
overlay of one or more such histograms, of fractions or of numbers of buckets, whether they have been aligned or not, as
long as 64 bits can hold their totals. The drawings are those of the charts that are written to files, which have binary64
coordinates. -/
theorem charts_fit (options : Options) :
    (∀ (h : Histogram) (expectation : List ℚ) (caption : String), h.frequencies ≠ [] →
      h.frequencies.length ≤ 2 ^ 32 → expectation.length = h.frequencies.length → (∀ e ∈ expectation, 0 ≤ e) →
      ∃ maxK axis, h.maxK = some maxK ∧
        Fits options.scale maxK [(h, h.values)]
          (histogramDrawing caption options.scale maxK (frequencyPoints h)
            (if options.showPoisson then some expectation else none))
          axis) ∧
    ∀ series : List Series, (∀ s ∈ series, s.histogram.frequencies ≠ [] ∧
      s.histogram.frequencies.length ≤ 2 ^ 32 ∧ s.histogram.sum < 2 ^ 64) →
      ∃ maxK lines axis, overlayData options.normalizeOverlay 0 series = .ok (maxK, lines) ∧
        Fits options.scale maxK ((series.map (·.histogram)).zip (lines.map (·.2)))
          (overlayDrawing options.scale options.normalizeOverlay maxK lines) axis := by
  constructor
  · intro h expectation caption hne hlevels hlength hnonneg
    obtain ⟨maxK, hmaxK⟩ := exists_maxK hne
    refine ⟨maxK, _, hmaxK, fits_histogramDrawing (length_of_maxK hlevels hmaxK) ?_ caption options.scale⟩
    cases options.showPoisson with
    | false => exact nofun
    | true =>
        rintro values ⟨⟩
        exact ⟨hlength, hnonneg⟩
  · intro series hseries
    have hlines : ∀ s ∈ series, HasLine options.normalizeOverlay s.histogram :=
      fun s hs => ⟨(hseries s hs).1, fun _ => (hseries s hs).2.2⟩
    have hlength : ∀ s ∈ series, s.histogram.frequencies.length ≤ (largestLevel series).toNat + 1 := by
      intro s hs
      obtain ⟨top, htop⟩ := exists_maxK (hseries s hs).1
      have hle := UInt32.le_iff_toNat_le.mp (le_largestLevel hs)
      rw [htop, Option.getD_some] at hle
      rw [length_of_maxK (hseries s hs).2.1 htop]
      omega
    have hshown : (series.map (·.histogram)).zip ((seriesLines options.normalizeOverlay series).map (·.2)) =
        series.map fun s => (s.histogram, (shownValues options.normalizeOverlay s.histogram : List ℚ)) := by
      rw [seriesLines, List.map_map, List.zip_map']
      rfl
    have hfits := fits_overlayDrawing hlength (fun s hs => (hseries s hs).2.2) options.scale options.normalizeOverlay
    rw [← hshown] at hfits
    exact ⟨_, _, _, overlayData_eq hlines, hfits⟩

/-- An expectation far below the frequencies, and beside a histogram of two levels one without any bucket at three. -/
theorem charts_fit_sparse :
    (∃ axis, Fits .logarithmic 2 [(⟨[0, 4, 1]⟩, [0, 4, 1])]
      (histogramDrawing "fnv" .logarithmic 2 (frequencyPoints ⟨[0, 4, 1]⟩) (some [1 / 1000000, 3, 0])) axis) ∧
    ∃ axis, Fits .logarithmic 2 [(⟨[1, 3]⟩, [1 / 4, 3 / 4]), (⟨[0, 0, 0]⟩, [0, 0, 0])]
      (overlayDrawing .logarithmic true 2 [("fnv", [1 / 4, 3 / 4]), ("xxh", [0, 0, 0])]) axis := by
  obtain ⟨hchart, hoverlay⟩ := charts_fit ⟨.logarithmic, true, true⟩
  constructor
  · obtain ⟨maxK, axis, hmaxK, hfits⟩ := hchart ⟨[0, 4, 1]⟩ [1 / 1000000, 3, 0] "fnv" (List.cons_ne_nil _ _) (by decide) rfl
      (by norm_num)
    cases hmaxK
    refine ⟨axis, ?_⟩
    simpa [Histogram.values] using hfits
  · obtain ⟨maxK, lines, axis, hdata, hfits⟩ := hoverlay [⟨"fnv", ⟨[1, 3]⟩⟩, ⟨"xxh", ⟨[0, 0, 0]⟩⟩] (by decide)
    have hfnv : (shownValues true ⟨[1, 3]⟩ : List ℚ) = [1 / 4, 3 / 4] := by
      rw [shownValues_rat (by decide)]
      simp [shares, sum]
    have hxxh : (shownValues true ⟨[0, 0, 0]⟩ : List ℚ) = [0, 0, 0] := by
      rw [shownValues_rat (by decide)]
      simp [shares, sum]
    have hlines : ∀ s ∈ [(⟨"fnv", ⟨[1, 3]⟩⟩ : Series), ⟨"xxh", ⟨[0, 0, 0]⟩⟩], HasLine true s.histogram :=
      List.forall_mem_cons.mpr ⟨⟨by decide, fun _ => by decide⟩,
        List.forall_mem_singleton.mpr ⟨by decide, fun _ => by decide⟩⟩
    have hlast : overlayData true 0 [⟨"fnv", ⟨[1, 3]⟩⟩, ⟨"xxh", ⟨[0, 0, 0]⟩⟩] =
        .ok (2, [("fnv", [(1 / 4 : ℚ), 3 / 4]), ("xxh", [0, 0, 0])]) := by
      rw [overlayData_eq hlines, seriesLines, List.map_cons, List.map_singleton, hfnv, hxxh]
      rfl
    rw [hlast] at hdata
    cases hdata
    exact ⟨axis, hfits⟩

/-- The bar of level one lies beyond an axis that ends half a level after level zero. -/
theorem not_all_charts_fit :
    ¬∀ (options : Options) (h : Histogram) (expectation : List ℚ) (caption : String), h.frequencies ≠ [] →
      expectation.length = h.frequencies.length → (∀ e ∈ expectation, 0 ≤ e) →
      ∃ maxK axis, h.maxK = some maxK ∧
        Fits options.scale maxK [(h, h.values)]
          (histogramDrawing caption options.scale maxK (frequencyPoints h)
            (if options.showPoisson then some expectation else none)) axis := by
  intro hall
  have hnonneg : ∀ e ∈ (wide.values : List ℚ), 0 ≤ e := fun e => values_nonneg
  obtain ⟨maxK, axis, hmaxK, hfits⟩ := hall ⟨.linear, false, true⟩ wide wide.values "" frequencies_wide_ne_nil
    (List.length_map _) hnonneg
  rw [maxK_wide] at hmaxK
  cases hmaxK
  have hfrequency : wide.frequencies[1]? = some 1 := by rw [wide, List.getElem?_replicate, if_pos (by decide)]
  have hpoint : (⟨ofLevel 1, ofCount 1⟩ : Point ℚ) ∈ frequencyPoints wide :=
    List.mem_map.mpr ⟨(1, 1), List.mem_of_getElem? (getElem?_pairs hfrequency), rfl⟩
  have hbar : bar (baseline .linear (frequencyPoints wide) none) (⟨ofLevel 1, ofCount 1⟩ : Point ℚ) ∈
      elements (histogramDrawing "" .linear 0 (frequencyPoints wide) none) := by
    rw [elements_histogramDrawing]
    exact List.mem_append_left _ (List.mem_map_of_mem hpoint)
  have hinside := hfits.inside _ hbar ⟨ofLevel 1 + 0.4, ofCount 1⟩ (List.mem_cons_of_mem _ List.mem_cons_self)
  have hright : (ofLevel 1 + 0.4 : ℚ) ≤ 0 + 0.5 := hinside.right
  rw [ofLevel_rat (by decide)] at hright
  norm_num at hright

end Occupancy.Chart
