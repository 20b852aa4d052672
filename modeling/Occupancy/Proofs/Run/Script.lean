import Occupancy.Proofs.Run.Frame

/-! What a run comes to on a sound surface, told from the files at the start. Whether an algorithm can be reported on and
whether there is room for its chart does not depend on the charts that are written before; so the files at the start
decide what is printed, what is written and how the run ends, in whatever state of its own it is started. -/

namespace Occupancy.Run

open FileSystem

variable {settings : Settings} {files fs made again : FileSystem} {path : Path} {r : Location} {paths : List Path}
  {done : List Finished} {extra writes : List (String × Content)} {console : List ConsoleLine}
  {result : Except RunError Path}

/-- An algorithm that a run gets done: its descriptor can be analyzed, and there is room for its chart. -/
structure Chartable (settings : Settings) (files made : FileSystem) (path : Path) (f : Finished) : Prop where
  report : analyze files path settings.maxK = .ok f.report
  drawing : Chart.ofHistogram f.report.descriptor f.report.histogram settings.chart = .ok f.drawing
  room : made.CanWrite (chartPath settings f.report.descriptor)

/-- Descriptors whose algorithms can all be done, with what becomes of them. -/
inductive AllChartable (settings : Settings) (files made : FileSystem) : List Path → List Finished → Prop
  | none : AllChartable settings files made [] []
  | next {path : Path} {paths : List Path} {f : Finished} {done : List Finished}
      (hfirst : Chartable settings files made path f) (hrest : AllChartable settings files made paths done) :
      AllChartable settings files made (path :: paths) (f :: done)

theorem AllChartable.exists_of_mem (h : AllChartable settings files made paths done) (hpath : path ∈ paths) :
    ∃ f, Chartable settings files made path f := by
  induction h with
  | none => cases hpath
  | next hfirst _ ih =>
      rcases List.mem_cons.mp hpath with rfl | hpath
      · exact ⟨_, hfirst⟩
      · exact ih hpath

theorem AllChartable.hasLine (h : AllChartable settings files made paths done) (normalize : Bool) :
    ∀ report ∈ done.map Finished.report, Chart.HasLine normalize report.histogram := by
  induction h with
  | none => exact List.forall_mem_nil _
  | next hfirst _ ih => exact List.forall_mem_cons.mpr ⟨hasLine_of_analyze hfirst.report normalize, ih⟩

/-- Algorithms that can be charted can be compared. -/
theorem AllChartable.exists_overlay (h : AllChartable settings files made paths done) (hpaths : paths ≠ []) :
    ∃ drawing, Chart.ofSeries (overlaySeries (done.map Finished.report)) settings.chart = .ok drawing := by
  refine Run.exists_overlay ?_ settings.chart (h.hasLine _)
  intro hnil
  cases List.map_eq_nil_iff.mp hnil
  cases h
  exact hpaths rfl

/-- The error of a chart whose file cannot be written. -/
def unwritable : RunError := .charting (.drawing "cannot write chart file")

/-- What a run prints, which algorithms it gets done, which overlay it draws and how it ends. The descriptors are analyzed
in the files at the start; `made` are these files once the directory of the charts is there, and they have room for a
chart or not. -/
inductive Script (settings : Settings) (files made : FileSystem) (paths : List Path) :
    List ConsoleLine → List Finished → List (String × Content) → Except RunError Path → Prop
  | unread {before after : List Path} {path : Path} {done : List Finished} {e : RunError}
      (hpaths : paths = before ++ path :: after) (hdone : AllChartable settings files made before done)
      (herror : analyze files path settings.maxK = .error e) :
      Script settings files made paths (blocks settings done) done [] (.error e)
  | unwritten {before after : List Path} {path : Path} {done : List Finished} {report : Report}
      (hpaths : paths = before ++ path :: after) (hdone : AllChartable settings files made before done)
      (hreport : analyze files path settings.maxK = .ok report)
      (hroom : ¬made.CanWrite (chartPath settings report.descriptor)) :
      Script settings files made paths (blocks settings done ++ report.lines settings.quiet) done [] (.error unwritable)
  | overlayUnwritten {done : List Finished} (hdone : AllChartable settings files made paths done)
      (hwanted : settings.overlay = true) (hroom : ¬made.CanWrite (overlayPath settings)) :
      Script settings files made paths (blocks settings done) done [] (.error unwritable)
  | finished {done : List Finished} {extra : List (String × Content)}
      (hdone : AllChartable settings files made paths done) (hoverlay : OverlayWrite settings done extra)
      (hroom : settings.overlay = true → made.CanWrite (overlayPath settings)) :
      Script settings files made paths (blocks settings done ++ overlayLines settings) done extra (.ok settings.plotsDir)

/-! ### There is a script for every run -/

theorem chartable_or_not (settings : Settings) (files made : FileSystem) (path : Path) :
    (∃ f, Chartable settings files made path f) ∨ (∃ e, analyze files path settings.maxK = .error e) ∨
      ∃ report, analyze files path settings.maxK = .ok report ∧
        ¬made.CanWrite (chartPath settings report.descriptor) := by
  cases hreport : analyze files path settings.maxK with
  | error e => exact Or.inr (Or.inl ⟨e, rfl⟩)
  | ok report =>
      by_cases hroom : made.CanWrite (chartPath settings report.descriptor)
      · obtain ⟨drawing, hdrawing⟩ := exists_ofHistogram (frequencies_ne_nil hreport) settings.chart
        exact Or.inl ⟨⟨report, drawing⟩, hreport, hdrawing, hroom⟩
      · exact Or.inr (Or.inr ⟨report, rfl, hroom⟩)

/-- All algorithms can be charted, or there is a first one that cannot. -/
theorem allChartable_or_not (settings : Settings) (files made : FileSystem) (paths : List Path) :
    (∃ done, AllChartable settings files made paths done) ∨
      ∃ before path after done, paths = before ++ path :: after ∧
        AllChartable settings files made before done ∧
          ((∃ e, analyze files path settings.maxK = .error e) ∨
            ∃ report, analyze files path settings.maxK = .ok report ∧
              ¬made.CanWrite (chartPath settings report.descriptor)) := by
  induction paths with
  | nil => exact Or.inl ⟨[], .none⟩
  | cons path paths ih =>
      rcases chartable_or_not settings files made path with ⟨f, hf⟩ | hfails
      · rcases ih with ⟨done, hdone⟩ | ⟨before, failed, after, done, rfl, hbefore, hfails⟩
        · exact Or.inl ⟨f :: done, .next hf hdone⟩
        · exact Or.inr ⟨path :: before, failed, after, f :: done, rfl, .next hf hbefore, hfails⟩
      · exact Or.inr ⟨[], path, paths, [], rfl, .none, hfails⟩

theorem exists_script (settings : Settings) (files made : FileSystem) (hpaths : paths ≠ []) :
    ∃ console done extra result, Script settings files made paths console done extra result := by
  rcases allChartable_or_not settings files made paths with ⟨done, hdone⟩ |
    ⟨before, path, after, done, hsplit, hbefore, ⟨e, herror⟩ | ⟨report, hreport, hroom⟩⟩
  · cases hwanted : settings.overlay with
    | false => exact ⟨_, _, _, _, .finished hdone (.unwanted hwanted) (by rw [hwanted]; nofun)⟩
    | true =>
        by_cases hroom : made.CanWrite (overlayPath settings)
        · obtain ⟨drawing, hdrawing⟩ := hdone.exists_overlay hpaths
          exact ⟨_, _, _, _, .finished hdone (.wanted hwanted hdrawing) fun _ => hroom⟩
        · exact ⟨_, _, _, _, .overlayUnwritten hdone hwanted hroom⟩
  · exact ⟨_, _, _, _, .unread hsplit hbefore herror⟩
  · exact ⟨_, _, _, _, .unwritten hsplit hbefore hreport hroom⟩

/-! ### The run follows the script -/

section Follows

variable (hsame : ∀ path ∈ paths, ∀ fs, Grown settings r files fs →
  analyze fs path settings.maxK = analyze files path settings.maxK)

include hsame

/-- In a state of the run with the same room, the algorithms are handled one after the other. -/
theorem exists_handled (hgrown : Grown settings r files fs) (hroom : SameRoom settings.plotsDir made fs)
    (hdone : AllChartable settings files made paths done) :
    ∃ left, Handled settings fs .sound paths done left .sound ∧ Grown settings r files left ∧
      SameRoom settings.plotsDir made left := by
  induction hdone generalizing fs with
  | none => exact ⟨fs, .none, hgrown, hroom⟩
  | @next path paths f done hf _ ih =>
      have hname := Chart.isName_fileName f.report.descriptor.algorithm
      have hreport : analyze fs path settings.maxK = .ok f.report := by
        rw [hsame path List.mem_cons_self fs hgrown, hf.report]
      obtain ⟨between, hwrite⟩ := (exists_write_iff (.chart f.drawing)).mpr ((hroom _ hname).mpr hf.room)
      obtain ⟨-, hwritten⟩ := hgrown.plots.written hname hwrite
      -- the chart is written over the results as they were, and leaves the same room for the others
      obtain ⟨left, hrest, hleft, hlast⟩ := ih (fun path hpath => hsame path (List.mem_cons_of_mem _ hpath))
        (hgrown.write hname hwrite) (hroom.trans (hgrown.plots.sameRoom hwritten))
      exact ⟨left, .next ⟨hreport, Chart.draws_sound hf.drawing hwrite⟩ hrest, hleft, hlast⟩

theorem Script.exists_course (h : Script settings files made paths console done extra result)
    (hpaths : discover fs settings.resultsDir = .ok paths) (hmade : Prepared settings fs made)
    (hgrown : Grown settings r files made) :
    ∃ final stdout, made.writeAll settings.plotsDir (chartWrites done ++ extra) = .ok final ∧
      Course settings fs .sound ⟨final, console, .sound, result⟩ stdout := by
  have hrefl := SameRoom.refl settings.plotsDir made
  cases h with
  | @unread before after path done e hsplit hdone herror =>
      subst hsplit
      obtain ⟨left, hbefore, hleft, -⟩ :=
        exists_handled (fun path hpath => hsame path (List.mem_append_left _ hpath)) hgrown hrefl hdone
      rw [← hsame path (List.mem_append_right _ List.mem_cons_self) left hleft] at herror
      have hcourse := Course.stopped hpaths hmade hbefore (.loading herror)
      rw [List.append_nil] at hcourse ⊢
      exact ⟨left, _, hbefore.writeAll, hcourse⟩
  | @unwritten before after path done report hsplit hdone hreport hroom =>
      subst hsplit
      obtain ⟨left, hbefore, hleft, hlast⟩ :=
        exists_handled (fun path hpath => hsame path (List.mem_append_left _ hpath)) hgrown hrefl hdone
      obtain ⟨drawing, hdrawing⟩ := exists_ofHistogram (frequencies_ne_nil hreport) settings.chart
      rw [← hsame path (List.mem_append_right _ List.mem_cons_self) left hleft] at hreport
      rw [List.append_nil]
      refine ⟨left, _, hbefore.writeAll, .stopped hpaths hmade hbefore (.charting hreport ?_)⟩
      apply Chart.drawIfAny_sound_of_unwritable hdrawing
      intro written hwrite
      exact hroom ((hlast _ (Chart.isName_fileName _)).mp (canWrite_of_write hwrite))
  | @overlayUnwritten done hdone hwanted hroom =>
      obtain ⟨left, hhandled, -, hlast⟩ := exists_handled hsame hgrown hrefl hdone
      obtain ⟨drawing, hdrawing⟩ := hdone.exists_overlay (ne_nil_of_discover hpaths)
      rw [List.append_nil]
      refine ⟨left, _, hhandled.writeAll, .overlayFailed hpaths hmade hhandled hwanted ?_⟩
      apply Chart.drawIfAny_sound_of_unwritable hdrawing
      intro written hwrite
      exact hroom ((hlast _ Chart.isName_overlayFileName).mp (canWrite_of_write hwrite))
  | @finished done extra hdone hoverlay hroom =>
      obtain ⟨left, hhandled, -, hlast⟩ := exists_handled hsame hgrown hrefl hdone
      cases hoverlay with
      | unwanted hunwanted =>
          have hcourse := Course.finished hpaths hmade hhandled hunwanted
          rw [overlayLines, hunwanted, if_neg Bool.false_ne_true, List.append_nil, List.append_nil]
          exact ⟨left, _, hhandled.writeAll, hcourse⟩
      | @wanted drawing hwanted hdrawing =>
          have hleft := (hlast _ Chart.isName_overlayFileName).mpr (hroom hwanted)
          obtain ⟨final, hwrite⟩ := (exists_write_iff (.chart drawing)).mpr hleft
          have hwrites : made.writeAll settings.plotsDir (chartWrites done ++ [(Chart.overlayFileName, .chart drawing)]) =
              .ok final := by
            rw [writeAll_append_of_ok hhandled.writeAll]
            exact writeAll_cons_of_ok hwrite []
          have hcourse := Course.overlaid hpaths hmade hhandled hwanted (Chart.draws_sound hdrawing hwrite)
          rw [overlayLines, hwanted, if_pos rfl]
          exact ⟨final, _, hwrites, hcourse⟩

end Follows

/-- Every name that is written to is the name of an entry. -/
theorem Script.isName (h : Script settings files made paths console done extra result) :
    ∀ w ∈ chartWrites done ++ extra, Path.IsName w.1 := by
  have hcharts (done : List Finished) : ∀ w ∈ chartWrites done ++ [], Path.IsName w.1 := by
    rw [List.append_nil]
    exact isName_of_mem_chartWrites done
  cases h with
  | unread => exact hcharts done
  | unwritten => exact hcharts done
  | overlayUnwritten => exact hcharts done
  | finished _ hoverlay _ => exact isName_of_mem_writes hoverlay

/-- A script that ends well gets all algorithms done, and the overlay if it is wanted. -/
theorem Script.of_ok {dir : Path} (h : Script settings files made paths console done extra (.ok dir)) :
    AllChartable settings files made paths done ∧ OverlayWrite settings done extra ∧
      (settings.overlay = true → made.CanWrite (overlayPath settings)) := by
  cases h with
  | finished hdone hoverlay hroom => exact ⟨hdone, hoverlay, hroom⟩

/-- **The files at the start decide what a run does.** Whatever charts are there already when it starts, a run over secluded
results follows the script that the files tell. -/
theorem Script.run_eq {start : FileSystem} (h : Script settings files made paths console done extra result)
    (hsecluded : Secluded settings files)
    (hdir : files.resolve true settings.resultsDir = .ok (.occupied r .directory))
    (hpaths : discover files settings.resultsDir = .ok paths) (hgrown : Grown settings r files made)
    (hstart : discover start settings.resultsDir = .ok paths) (hmade : Prepared settings start made) :
    ∃ final, made.writeAll settings.plotsDir (chartWrites done ++ extra) = .ok final ∧
      Grown settings r files final ∧ run settings start .sound = ⟨final, console, .sound, result⟩ := by
  obtain ⟨final, stdout, hwrites, hcourse⟩ := h.exists_course
    (fun path hpath fs hfs => hfs.analyze_eq hsecluded hdir hpaths hpath settings.maxK) hstart hmade hgrown
  exact ⟨final, hwrites, hgrown.writeAll h.isName hwrites, hcourse.run_eq⟩

/-! ### Runs that come to no algorithm -/

/-- A run that ends before it comes to any algorithm. -/
inductive Halted (settings : Settings) (files : FileSystem) : RunError → Prop
  | undiscovered {e : RunError} (herror : discover files settings.resultsDir = .error e) : Halted settings files e
  | unprepared {paths : List Path} {e : IoError} (hpaths : discover files settings.resultsDir = .ok paths)
      (herror : files.ensureDirectory settings.plotsDir = .error e) : Halted settings files (.inaccessible e)

theorem Halted.run_eq {e : RunError} (h : Halted settings files e) (surface : Surface) :
    run settings files surface = ⟨files, [], surface, .error e⟩ := by
  cases h with
  | undiscovered herror => exact (Course.undiscovered herror).run_eq
  | unprepared hpaths herror => exact (Course.unprepared hpaths herror).run_eq

theorem halted_or_prepared (settings : Settings) (files : FileSystem) :
    (∃ e, Halted settings files e) ∨
      ∃ paths made, discover files settings.resultsDir = .ok paths ∧ Prepared settings files made := by
  cases hpaths : discover files settings.resultsDir with
  | error e => exact Or.inl ⟨e, .undiscovered hpaths⟩
  | ok paths =>
      cases hmade : files.ensureDirectory settings.plotsDir with
      | error e => exact Or.inl ⟨_, .unprepared hpaths hmade⟩
      | ok made => exact Or.inr ⟨paths, made, rfl, prepared_of_ok hmade⟩

end Occupancy.Run
