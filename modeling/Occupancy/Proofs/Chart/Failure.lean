import Occupancy.Proofs.Chart.Histogram
import Occupancy.Proofs.Chart.Overlay
import Occupancy.Proofs.Chart.Surface
import Occupancy.Proofs.FileSystem.Writable

/-! Charts that cannot be drawn. A surface that fails at some call of a stage stops a chart that makes so many calls of
it, and no other. The error tells the stage, and the file of the chart is not touched: it is written in one piece, after
all calls have been made. -/

namespace Occupancy.Chart

variable {files : FileSystem} {surface : Surface} {path : Path} {stage : Stage} {n : Nat} {drawing : Drawing Float}

/-! ### Calls -/

section Calls

variable {α : Type}

/-- The number of calls of a stage in a drawing. -/
def callCount (stage : Stage) (drawing : Drawing α) : Nat := drawing.countP fun call => call.stage? = some stage

theorem callCount_append (stage : Stage) (first second : Drawing α) :
    callCount stage (first ++ second) = callCount stage first + callCount stage second := List.countP_append

theorem callCount_cons (stage : Stage) (call : Call α) (calls : Drawing α) :
    callCount stage (call :: calls) = callCount stage calls + if call.stage? = some stage then 1 else 0 := by
  rw [callCount, List.countP_cons, callCount]
  simp only [decide_eq_true_eq]

section Frame

variable {content : Drawing α} {caption yDescription : String} {xSpan ySpan : Span α} {scale : Scale} {maxK : UInt32}

/-- The frame of a chart makes one call of every stage but the one that draws series. -/
theorem callCount_framed (stage : Stage) :
    callCount stage (framed caption xSpan scale ySpan maxK yDescription content) =
      callCount stage content + if stage = .series then 0 else 1 := by
  rw [framed, callCount_append, callCount_append]
  cases stage <;> simp [callCount, Call.stage?] <;> omega

theorem getLast?_framed : (framed caption xSpan scale ySpan maxK yDescription content).getLast? = some .present := by
  rw [framed, List.getLast?_append]
  rfl

end Frame

theorem callCount_markedLine (stage : Stage) (ink : Ink) (radius : Nat) (name : String) (points : List (Point α)) :
    callCount stage (markedLine ink radius name points) = if stage = .series then 2 else 0 := by
  cases stage <;> rfl

/-- A surface that fails at the call `n` of a stage fails when a drawing comes to it, and lets every other call pass. -/
theorem perform_faulty (hn : 0 < n) (drawing : Drawing α) :
    (perform (.faulty stage n) drawing).1 =
      if n ≤ callCount stage drawing then .error (stage.error ("injected failure at " ++ stage.name)) else .ok () := by
  induction drawing generalizing n with
  | nil => exact (if_neg (Nat.not_le.mpr hn)).symm
  | cons call calls ih =>
      rw [perform, callCount_cons]
      cases hcall : call.stage? with
      | none => exact ih hn
      | some other =>
          -- Only calls of the stage count down, so one is left when its call `n` is made.
          by_cases hstage : stage = other
          · subst hstage
            by_cases hlast : n = 1
            · subst hlast
              simp [Surface.fails]
            · have hrest := ih (n := n - 1) (by omega)
              simpa [Surface.fails, Surface.after, hlast] using hrest
          · simpa [Surface.fails, Surface.after, hstage, Ne.symm hstage] using ih hn

end Calls

/-! ### The calls of the charts -/

/-- A drawing with the given number of calls that draw series. It makes one call of every other stage, and ends with the
one that presents the chart. -/
structure MakesCalls {α : Type} (series : Nat) (drawing : Drawing α) : Prop where
  count : ∀ stage, callCount stage drawing = if stage = .series then series else 1
  last : drawing.getLast? = some .present

section Drawings

variable {α : Type} [Scalar α] [OfScientific α] [LT α] [DecidableLT α]

theorem makesCalls_histogramDrawing [Add α] [Sub α] [Neg α] [Mul α] [LE α] [DecidableLE α] (caption : String)
    (scale : Scale) (maxK : UInt32) (observed : List (Point α)) (expected : Option (List α)) :
    MakesCalls (if expected.isSome then 3 else 1) (histogramDrawing caption scale maxK observed expected) where
  count stage := by
    rw [histogramDrawing.eq_def, callCount_framed, callCount_append]
    cases expected with
    | none => cases stage <;> rfl
    | some values => rw [callCount_markedLine]; cases stage <;> rfl
  last := getLast?_framed

theorem callCount_overlayLines (stage : Stage) (scale : Scale) (lines : List (String × List α)) :
    callCount stage (overlayLines scale lines) = if stage = .series then 2 * lines.length else 0 := by
  calc callCount stage (overlayLines scale lines)
      = (lines.zipIdx.map fun _ => if stage = .series then 2 else 0).sum := by
        rw [overlayLines, callCount, List.countP_flatMap]
        exact congrArg List.sum (List.map_congr_left fun line _ => callCount_markedLine stage _ _ _ _)
    _ = if stage = .series then 2 * lines.length else 0 := by
        rw [List.map_const', List.sum_replicate_nat, List.length_zipIdx]
        cases stage <;> simp [Nat.mul_comm]

theorem makesCalls_overlayDrawing [Add α] [Neg α] [Mul α] (scale : Scale) (normalize : Bool) (maxK : UInt32)
    (lines : List (String × List α)) : MakesCalls (2 * lines.length) (overlayDrawing scale normalize maxK lines) where
  count stage := by
    rw [overlayDrawing, callCount_framed, callCount_overlayLines]
    cases stage <;> rfl
  last := getLast?_framed

end Drawings

/-! ### All or nothing -/

/-- The errors of charts that fail at a stage. -/
def IsOfStage : Stage → ChartError → Prop
  | .fill, e => ∃ reason, e = .drawingArea reason
  | .build, e => ∃ reason, e = .chartConfig reason
  | .mesh, e | .series, e | .seriesLabels, e | .present, e => ∃ reason, e = .drawing reason

theorem isOfStage_error (stage : Stage) (reason : String) : IsOfStage stage (stage.error reason) := by
  cases stage <;> exact ⟨reason, rfl⟩

/-- A chart that is drawn as a whole or not at all, on whatever surface. If it fails, it leaves the files as they were;
otherwise it is in the file that its path leads to, and nothing else has changed. On a surface that fails at the call `n`
of a stage it fails, with an error of that stage, when it makes so many calls of it; when it does not and its file can be
written, it is drawn. -/
structure AllOrNothing (files : FileSystem) (path : Path) (drawing : Drawing Float) (drawOn : Surface → Drawn) : Prop where
  failed : ∀ surface e, (drawOn surface).result = .error e → (drawOn surface).files = files
  drawn : ∀ surface shown, (drawOn surface).result = .ok shown → shown = path ∧
    ∃ name d, files.resolve true path = .ok (files.placeAt (name :: d)) ∧
      (drawOn surface).files.resolve true path = .ok ((drawOn surface).files.placeAt (name :: d)) ∧
      FileSystem.Written name d (.chart drawing) files (drawOn surface).files
  fails_iff : files.CanWrite path → ∀ stage n, 0 < n →
    ((∃ e, (drawOn (.faulty stage n)).result = .error e) ↔ n ≤ callCount stage drawing)
  stage : ∀ stage n, 0 < n → n ≤ callCount stage drawing →
    ∃ e, (drawOn (.faulty stage n)).result = .error e ∧ IsOfStage stage e
  unwritable : ¬files.CanWrite path → ∀ surface, ∃ e, (drawOn surface).result = .error e

theorem result_of_perform {e : ChartError} (hperform : (perform surface drawing).1 = .error e) :
    (drawIfAny files surface path (.ok drawing)).result = .error e := by
  rw [drawIfAny, draw]
  cases hall : perform surface drawing with
  | mk result later =>
      rw [hall] at hperform
      cases hperform
      rfl

theorem exists_draws (hperform : (perform surface drawing).1 = .ok ()) (hroom : files.CanWrite path) :
    ∃ written later, Draws files surface path (.ok drawing) drawing written later := by
  obtain ⟨written, hwrite⟩ := (FileSystem.exists_write_iff (.chart drawing)).mpr hroom
  exact ⟨written, _, rfl, Prod.ext hperform rfl, hwrite⟩

theorem exists_isOfStage (files : FileSystem) (path : Path) (hn : 0 < n) (hle : n ≤ callCount stage drawing) :
    ∃ e, (drawIfAny files (.faulty stage n) path (.ok drawing)).result = .error e ∧ IsOfStage stage e :=
  ⟨_, result_of_perform ((perform_faulty hn drawing).trans (if_pos hle)), isOfStage_error stage _⟩

theorem allOrNothing_drawIfAny (files : FileSystem) (path : Path) (drawing : Drawing Float) :
    AllOrNothing files path drawing fun surface => drawIfAny files surface path (.ok drawing) where
  failed surface e herror := by
    rcases draws_or_fails files surface path (.ok drawing) with ⟨_, written, later, hdraws⟩ | ⟨e, last, hfails⟩
    · rw [hdraws.drawIfAny_eq] at herror
      cases herror
    · rw [hfails]
  drawn surface shown hshown := by
    rcases draws_or_fails files surface path (.ok drawing) with ⟨_, written, later, hdraws⟩ | ⟨e, last, hfails⟩
    · cases hdraws.exists_chart
      rw [hdraws.drawIfAny_eq] at hshown ⊢
      obtain ⟨name, d, hplace, hwritten⟩ := FileSystem.exists_written hdraws.wrote
      have hleaf := hwritten.entry ▸ FileSystem.isLeaf_stored _ _
      exact ⟨(Except.ok.inj hshown).symm, name, d, hplace, hwritten.change.resolve_placeAt hleaf hplace, hwritten⟩
    · rw [hfails] at hshown
      cases hshown
  fails_iff hroom stage n hn := by
    constructor
    · rintro ⟨e, herror⟩
      refine Decidable.byContradiction fun hlt => ?_
      obtain ⟨written, later, hdraws⟩ := exists_draws ((perform_faulty hn drawing).trans (if_neg hlt)) hroom
      rw [hdraws.drawIfAny_eq] at herror
      cases herror
    · intro hle
      obtain ⟨e, herror, -⟩ := exists_isOfStage files path hn hle
      exact ⟨e, herror⟩
  stage stage n hn hle := exists_isOfStage files path hn hle
  unwritable hroom surface := by
    rcases draws_or_fails files surface path (.ok drawing) with ⟨_, written, later, hdraws⟩ | ⟨e, last, hfails⟩
    · exact absurd (FileSystem.canWrite_of_write hdraws.wrote) hroom
    · exact ⟨e, by rw [hfails]⟩

/-! ### All charts -/

theorem isSome_shownExpected (options : Options) (d : Descriptor) (maxK : UInt32) :
    (shownExpected options d maxK).isSome = options.showPoisson := by
  rw [shownExpected]
  cases options.showPoisson <;> rfl

/-- **Charts are drawn as a whole or not at all.** This holds for the chart of every histogram with levels, with any options
and in any directory. A chart makes one call of every stage but the one that draws series; of these a histogram has three
with its expectation and one without, and an overlay has two for each of its lines. It holds for the overlay of one or more
histograms that all have lines. Otherwise the first that has none is to blame: without levels it is an error, and where
fractions are wanted but 64 bits cannot hold a total the program ends. Then no call is made: the files and the surface are
as they were. -/
theorem charts_all_or_nothing (files : FileSystem) (options : Options) (dir : Path) :
    (∀ d h, h.frequencies ≠ [] → ∃ drawing, ofHistogram d h options = .ok drawing ∧
      MakesCalls (if options.showPoisson then 3 else 1) drawing ∧
      AllOrNothing files (dir.join ⟨fileName d.algorithm⟩) drawing fun surface =>
        drawHistogram files surface d h options dir) ∧
    (∀ series, series ≠ [] → (∀ s ∈ series, HasLine options.normalizeOverlay s.histogram) → ∃ drawing,
      ofSeries series options = .ok drawing ∧
      MakesCalls (2 * series.length) drawing ∧
      AllOrNothing files (dir.join ⟨overlayFileName⟩) drawing fun surface =>
        drawOverlay files surface series options dir) ∧
    (∀ surface d h, h.frequencies = [] →
      drawHistogram files surface d h options dir = ⟨files, surface, .error (.emptyHistogram d.algorithm)⟩) ∧
    (∀ surface, drawOverlay files surface [] options dir =
      ⟨files, surface, .error (.invalidData "Overlay needs at least one algorithm")⟩) ∧
    ∀ surface before s after, (∀ b ∈ before, HasLine options.normalizeOverlay b.histogram) →
      ¬HasLine options.normalizeOverlay s.histogram →
      drawOverlay files surface (before ++ s :: after) options dir =
        ⟨files, surface, .error (if s.histogram.frequencies.isEmpty then .emptyHistogram s.name else .overflow .add)⟩ := by
  refine ⟨?_, ?_, ?_, fun _ => rfl, ?_⟩
  · intro d h hne
    obtain ⟨maxK, hmaxK⟩ := Histogram.exists_maxK hne
    have hchart := ofHistogram_eq (d := d) hmaxK options
    refine ⟨_, hchart, ?_, ?_⟩
    · have hcalls := makesCalls_histogramDrawing (title d) options.scale maxK (frequencyPoints h)
        (shownExpected options d maxK)
      rwa [isSome_shownExpected] at hcalls
    · simp only [drawHistogram, hchart]
      exact allOrNothing_drawIfAny _ _ _
  · intro series hseries hlines
    have hchart := ofSeries_eq hseries hlines
    refine ⟨_, hchart, ?_, ?_⟩
    · have hcalls := makesCalls_overlayDrawing options.scale options.normalizeOverlay (largestLevel series)
        (seriesLines options.normalizeOverlay series : List (String × List Float))
      rwa [seriesLines, List.length_map] at hcalls
    · simp only [drawOverlay, hchart]
      exact allOrNothing_drawIfAny _ _ _
  · intro surface d h hempty
    rw [drawHistogram, ofHistogram, Histogram.maxK_eq_none_iff.mpr hempty, drawIfAny]
  · intro surface before s after hbefore hline
    rw [drawOverlay, ofSeries_of_not_hasLine hbefore hline, drawIfAny, lineError]

/-- A directory with nothing in it. -/
def bareResults : FileSystem := ⟨[(["r"], .directory)], []⟩

/-- Two frequencies whose sum is too large for 64 bits. -/
def tooMany : Histogram := ⟨[0x8000000000000000, 0x8000000000000000]⟩

/-- An overlay of two lines fails at its fourth series, the last markers, and it has no fifth; a histogram fails at its
third, if the expectation is shown. With an empty histogram there is nothing to compare, and behind one that cannot be
added up it is not looked at. -/
theorem charts_all_or_nothing_pair :
    let fnv : Series := ⟨"fnv", ⟨[1, 3]⟩⟩
    let xxh : Series := ⟨"xxh", ⟨[0, 4]⟩⟩
    let onto (countdown : Nat) : Drawn := drawOverlay bareResults (.faulty .series countdown) [fnv, xxh] .default ⟨"r"⟩
    (∃ e, (onto 4).result = .error e ∧ IsOfStage .series e ∧ (onto 4).files = bareResults) ∧
    (¬∃ e, (onto 5).result = .error e) ∧
    (∃ e, (drawHistogram bareResults (.faulty .series 3) ⟨"fnv", 4, 3, "fnv.bin", "int32", none⟩ fnv.histogram .default
      ⟨"r"⟩).result = .error e) ∧
    drawHistogram bareResults .sound ⟨"fnv", 4, 3, "fnv.bin", "int32", none⟩ ⟨[]⟩ .default ⟨"r"⟩ =
      ⟨bareResults, .sound, .error (.emptyHistogram "fnv")⟩ ∧
    drawOverlay bareResults .sound [fnv, ⟨"md5", ⟨[]⟩⟩] .default ⟨"r"⟩ =
      ⟨bareResults, .sound, .error (.emptyHistogram "md5")⟩ ∧
    drawOverlay bareResults .sound [fnv, ⟨"sum", tooMany⟩, ⟨"md5", ⟨[]⟩⟩] .default ⟨"r"⟩ =
      ⟨bareResults, .sound, .error (.overflow .add)⟩ := by
  intro fnv xxh onto
  obtain ⟨hhistogram, hoverlay, hempty, -, hfirst⟩ := charts_all_or_nothing bareResults .default ⟨"r"⟩
  have hfnv : HasLine true fnv.histogram := ⟨by decide, fun _ => by decide⟩
  have hlines : ∀ s ∈ [fnv, xxh], HasLine true s.histogram :=
    List.forall_mem_cons.mpr ⟨hfnv, List.forall_mem_singleton.mpr ⟨by decide, fun _ => by decide⟩⟩
  obtain ⟨overlay, -, hcalls, hall⟩ := hoverlay [fnv, xxh] (List.cons_ne_nil _ _) hlines
  have hroom : bareResults.CanWrite (Path.join ⟨"r"⟩ ⟨overlayFileName⟩) :=
    ⟨.free ["hist_overlay.png", "r"], rfl, trivial⟩
  refine ⟨?_, ?_, ?_, hempty _ _ _ rfl, ?_, ?_⟩
  · obtain ⟨e, herror, hstage⟩ := hall.stage .series 4 (by decide) (by rw [hcalls.count]; decide)
    exact ⟨e, herror, hstage, hall.failed _ e herror⟩
  · rw [hall.fails_iff hroom .series 5 (by decide), hcalls.count]
    decide
  · obtain ⟨chart, -, hcalls, hall⟩ := hhistogram ⟨"fnv", 4, 3, "fnv.bin", "int32", none⟩ fnv.histogram (by decide)
    obtain ⟨e, herror, -⟩ := hall.stage .series 3 (by decide) (by rw [hcalls.count]; decide)
    exact ⟨e, herror⟩
  · exact hfirst .sound [fnv] ⟨"md5", ⟨[]⟩⟩ [] (List.forall_mem_singleton.mpr hfnv) fun hline => hline.levels rfl
  · refine hfirst .sound [fnv] ⟨"sum", tooMany⟩ [⟨"md5", ⟨[]⟩⟩] (List.forall_mem_singleton.mpr hfnv) fun hline => ?_
    exact absurd (hline.total rfl) (by decide)

/-- An overlay of fractions whose first call fails does not report it where a total is too large. -/
theorem not_all_charts_all_or_nothing :
    ¬∀ (files : FileSystem) (options : Options) (dir : Path) (series : List Series), series ≠ [] →
      (∀ s ∈ series, s.histogram.frequencies ≠ []) → ∃ drawing, MakesCalls (2 * series.length) drawing ∧
        AllOrNothing files (dir.join ⟨overlayFileName⟩) drawing fun surface =>
          drawOverlay files surface series options dir := by
  intro hall
  obtain ⟨drawing, hcalls, hatomic⟩ := hall bareResults .default ⟨"r"⟩ [⟨"sum", tooMany⟩] (List.cons_ne_nil _ _)
    (List.forall_mem_singleton.mpr (by decide))
  obtain ⟨e, herror, reason, rfl⟩ := hatomic.stage .fill 1 (by decide) (by rw [hcalls.count]; decide)
  have hended : drawOverlay bareResults (.faulty .fill 1) [⟨"sum", tooMany⟩] .default ⟨"r"⟩ =
      ⟨bareResults, .faulty .fill 1, .error (.overflow .add)⟩ := by
    have hline : ¬HasLine true tooMany := fun hline => absurd (hline.total rfl) (by decide)
    have hnone : ofSeries ([] ++ [⟨"sum", tooMany⟩]) .default = .error (lineError ⟨"sum", tooMany⟩) :=
      ofSeries_of_not_hasLine (List.forall_mem_nil _) hline
    rw [List.nil_append] at hnone
    rw [drawOverlay, hnone]
    rfl
  rw [hended] at herror
  cases herror

end Occupancy.Chart
