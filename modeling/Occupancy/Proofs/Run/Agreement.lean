import Occupancy.Proofs.Loading.RoundTrip
import Occupancy.Proofs.Run.Drawable
import Occupancy.Proofs.Run.Frame

/-! A run reports what an analysis without output reports. The run reads each algorithm in a state that it has written
charts to, the analysis reads all of them in the state at the start; but whatever the run writes is at or below the
directory of the charts, where neither descriptors nor counts are looked for. -/

namespace Occupancy.Run

open FileSystem

variable {settings : Settings} {files fs made left : FileSystem} {surface later : Surface} {path : Path}
  {r : Location} {paths : List Path} {done : List Finished} {cap : Option UInt32} {report : Report} {e : RunError}

/-! ### Where a run writes -/

/-- The results are apart from the charts: the directory of the charts is missing or has no links, and on the way to the
counts of no descriptor it is looked at or entered. -/
structure Apart (settings : Settings) (files : FileSystem) : Prop where
  world : files.IsWorld
  plots : ∀ r, files.resolve true settings.resultsDir = .ok (.occupied r .directory) →
    files.lookup ("plots" :: r) = none ∨
      files.lookup ("plots" :: r) = some .directory ∧ ∀ name target, files.lookup (name :: "plots" :: r) ≠ some (.link target)
  counts : ∀ r paths, files.resolve true settings.resultsDir = .ok (.occupied r .directory) →
    discover files settings.resultsDir = .ok paths → ∀ path ∈ paths, ∀ d, Loading.loadDescriptor files path = .ok d →
      ∀ l ∈ files.looks (Loading.countsPath path d), ¬("plots" :: r) <:+ l

theorem Apart.secluded (h : Apart settings files) : Secluded settings files where
  world := h.world
  noLink r hdir target hlink := by
    rcases h.plots r hdir with hfree | ⟨hdirectory, -⟩
    · rw [hfree] at hlink
      cases hlink
    · rw [hdirectory] at hlink
      cases hlink
  noLinks r hdir name target hlink := by
    rcases h.plots r hdir with hfree | ⟨-, hlinks⟩
    · rw [h.world.tree.lookup_eq_none hfree name] at hlink
      cases hlink
    · exact hlinks name target hlink
  counts := h.counts

theorem Apart.ensureDirectory_eq (h : Apart settings files)
    (hdir : files.resolve true settings.resultsDir = .ok (.occupied r .directory)) :
    files.ensureDirectory settings.plotsDir =
      if Fits settings.resultsDir "plots" then .ok (files.withDirectory ("plots" :: r)) else .error .nameTooLong := by
  rw [Settings.plotsDir, Settings.plotsDirFor]
  exact ensureDirectory_join hdir isName_plots ((h.plots r hdir).imp_right And.left)

/-! ### The run -/

/-- The descriptors that a run has handled are those that an analysis has reported on. -/
theorem Handled.analyzeAll_append (h : Handled settings fs surface paths done left later) (hgrown : Grown settings r files fs)
    (hsame : ∀ path ∈ paths, ∀ fs, Grown settings r files fs →
      analyze fs path settings.maxK = analyze files path settings.maxK) (after : List Path) :
    Grown settings r files left ∧
      analyzeAll files settings.maxK (paths ++ after) =
        (analyzeAll files settings.maxK after).map (done.map Finished.report ++ ·) := by
  induction h with
  | none =>
      refine ⟨hgrown, ?_⟩
      rw [List.nil_append]
      cases analyzeAll files settings.maxK after <;> rfl
  | next hfirst hrest ih =>
      have hreport := hfirst.report
      rw [hsame _ List.mem_cons_self _ hgrown] at hreport
      have hbetween := hgrown.write (Chart.isName_fileName _) hfirst.drawn.wrote
      obtain ⟨hleft, hall⟩ := ih hbetween fun path hpath => hsame path (List.mem_cons_of_mem _ hpath)
      refine ⟨hleft, ?_⟩
      rw [List.cons_append, analyzeAll_cons_of_ok hreport, hall]
      cases analyzeAll files settings.maxK after <;> rfl

/-- Where the path of the directory of the charts is too long, so are those of all descriptors. -/
theorem openEntry_of_not_fits (hworld : files.IsWorld)
    (hdir : files.resolve true settings.resultsDir = .ok (.occupied r .directory))
    (hpaths : discover files settings.resultsDir = .ok paths) (hlong : ¬Fits settings.resultsDir "plots")
    (hpath : path ∈ paths) : files.openEntry path = .error .nameTooLong := by
  obtain ⟨name, content, rfl, hmem, hdescriptor⟩ := exists_name_of_discover hdir hpaths hpath
  obtain ⟨hlookup, hname⟩ := hworld.of_mem_children hmem
  have hnotFits : ¬Fits settings.resultsDir name := by
    have hplots : pathLimit ≤ (settings.resultsDir.join ⟨"plots"⟩).text.utf8ByteSize :=
      (Decidable.not_not.mp hlong).resolve_right (by decide)
    have hsize := le_utf8ByteSize_of_isDescriptorName hdescriptor
    have hending : "plots".utf8ByteSize ≤ descriptorEnding.utf8ByteSize := by decide
    rw [Path.utf8ByteSize_join _ isName_plots.no_slash] at hplots
    refine not_not_intro (Or.inl ?_)
    rw [Path.utf8ByteSize_join _ hname.no_slash]
    omega
  rw [openEntry, resolve_join hdir hname (ne_link_of_file hlookup) true, if_neg hnotFits]

theorem analyzeDirectory_of_not_fits (hworld : files.IsWorld)
    (hdir : files.resolve true settings.resultsDir = .ok (.occupied r .directory))
    (hpaths : discover files settings.resultsDir = .ok paths) (hlong : ¬Fits settings.resultsDir "plots") :
    analyzeDirectory files settings = .error (.loading (.fileRead .nameTooLong)) := by
  obtain ⟨path, after, rfl⟩ := List.exists_cons_of_ne_nil (ne_nil_of_discover hpaths)
  have hopen := openEntry_of_not_fits hworld hdir hpaths hlong List.mem_cons_self
  have hload : analyze files path settings.maxK = .error (.loading (.fileRead .nameTooLong)) := by
    rw [analyze, Loading.loadAlgorithm, Loading.loadDescriptor, hopen]
  rw [analyzeDirectory, hpaths]
  exact analyzeAll_cons_of_error hload after

theorem Completed.analyzeDirectory_eq {extra : List (String × Content)} (hapart : Apart settings files)
    (h : Completed settings files surface made done extra) :
    analyzeDirectory files settings = .ok (done.map Finished.report) := by
  obtain ⟨paths, left, later, hpaths, hdone⟩ := h.handled
  obtain ⟨r, hdir⟩ := resolve_of_discover hpaths
  have hsecluded := hapart.secluded
  obtain ⟨hgrown, -⟩ := hsecluded.grown hdir hpaths h.prepared.ensured
  have hall := (hdone.analyzeAll_append hgrown
    (fun path hpath fs hfs => hfs.analyze_eq hsecluded hdir hpaths hpath settings.maxK) []).2
  rw [List.append_nil] at hall
  rw [analyzeDirectory, hpaths]
  simp only [hall, analyzeAll, Except.map, List.append_nil]

theorem Apart.lt_pathLimit (h : Apart settings files) (hpaths : discover files settings.resultsDir = .ok paths)
    (hmade : Prepared settings files made) : settings.plotsDir.text.utf8ByteSize < pathLimit := by
  obtain ⟨r, hdir⟩ := resolve_of_discover hpaths
  have hensured := hmade.ensured
  rw [h.ensureDirectory_eq hdir] at hensured
  split at hensured
  · rename_i hfits
    exact Nat.not_le.mp fun hlong => hfits (Or.inl hlong)
  · cases hensured

/-- Behind descriptors that a run has handled, the next one that cannot be loaded stops an analysis as well. -/
theorem Handled.analyzeDirectory_eq_error {before after : List Path}
    (hbefore : Handled settings made surface before done left later) (hapart : Apart settings files)
    (hpaths : discover files settings.resultsDir = .ok (before ++ path :: after)) (hmade : Prepared settings files made)
    (hload : analyze left path settings.maxK = .error e) : analyzeDirectory files settings = .error e := by
  obtain ⟨r, hdir⟩ := resolve_of_discover hpaths
  obtain ⟨hgrown, -⟩ := hapart.secluded.grown hdir hpaths hmade.ensured
  have hsame {path' : Path} (hpath : path' ∈ before ++ path :: after) (fs : FileSystem)
      (hfs : Grown settings r files fs) := hfs.analyze_eq hapart.secluded hdir hpaths hpath settings.maxK
  obtain ⟨hleft, hall⟩ := hbefore.analyzeAll_append hgrown
    (fun path' hpath => hsame (List.mem_append_left _ hpath)) (path :: after)
  rw [hsame (List.mem_append_right _ List.mem_cons_self) left hleft] at hload
  rw [analyzeDirectory, hpaths]
  simp only [hall, analyzeAll_cons_of_error hload, Except.map]

/-- The run does not end with the error of a chart, unless it is one about the data. So no call for a chart fails and every
chart can be written that the run comes to; of the charts behind an earlier error nothing is said. -/
def ChartsDrawn (settings : Settings) (files : FileSystem) (surface : Surface) : Prop :=
  ∀ e, (run settings files surface).result = .error (.charting e) → ∃ reason, e = .invalidData reason

/-- Why a run fails whose charts are drawn: for the reason that an analysis fails, unless the directory of the charts
cannot be made. -/
theorem Apart.analyzeDirectory_of_error (hapart : Apart settings files) (hdrawn : ChartsDrawn settings files surface)
    (herror : (run settings files surface).result = .error e) :
    analyzeDirectory files settings = .error e ∧
        (settings.plotsDir.text.utf8ByteSize < pathLimit ∨ ∀ cause, e ≠ .loading cause) ∨
      e = .inaccessible .nameTooLong ∧ pathLimit ≤ settings.plotsDir.text.utf8ByteSize ∧
        analyzeDirectory files settings = .error (.loading (.fileRead .nameTooLong)) := by
  have hcharting {cause : ChartError} (hcause : e = .charting cause) : ∃ reason, cause = .invalidData reason :=
    hdrawn cause (hcause ▸ herror)
  obtain ⟨o, stdout, hcourse⟩ := exists_course settings files surface
  rw [hcourse.run_eq] at herror
  cases hcourse with
  | undiscovered hundiscovered =>
      cases herror
      exact Or.inl ⟨by rw [analyzeDirectory, hundiscovered], Or.inr (ne_loading_of_discover hundiscovered)⟩
  | unprepared hpaths hunprepared =>
      cases herror
      obtain ⟨r, hdir⟩ := resolve_of_discover hpaths
      rw [hapart.ensureDirectory_eq hdir] at hunprepared
      split at hunprepared
      · cases hunprepared
      · rename_i hlong
        cases hunprepared
        exact Or.inr ⟨rfl, (Decidable.not_not.mp hlong).resolve_right (by decide),
          analyzeDirectory_of_not_fits hapart.world hdir hpaths hlong⟩
  | stopped hpaths hmade hbefore hfails =>
      cases herror
      cases hfails with
      | loading hload =>
          exact Or.inl ⟨hbefore.analyzeDirectory_eq_error hapart hpaths hmade hload,
            Or.inl (hapart.lt_pathLimit hpaths hmade)⟩
      | charting hreport hfailed =>
          obtain ⟨reason, rfl⟩ := hcharting rfl
          exact absurd trivial (Fails.charting hreport hfailed).not_isOfData
  | overlayFailed hpaths hmade hdone _ hfailed =>
      cases herror
      obtain ⟨reason, rfl⟩ := hcharting rfl
      exact absurd trivial (hdone.not_isOfData (ne_nil_of_discover hpaths) hfailed)
  | finished => cases herror
  | overlaid => cases herror

/-- **A run reports what an analysis reports.** Where the results are apart from the charts and all charts are drawn, a
run and an analysis of the same results succeed together, with the same reports in the same order, and fail with the same
error; only that a run whose directory of charts has too long a path fails to make it before it reads any descriptor. -/
theorem run_agrees (hapart : Apart settings files) (hdrawn : ChartsDrawn settings files surface) :
    ((∃ dir, (run settings files surface).result = .ok dir) ↔
      ∃ reports, analyzeDirectory files settings = .ok reports) ∧
    (∀ reports, analyzeDirectory files settings = .ok reports →
      (∃ made done extra, Completed settings files surface made done extra ∧ done.map Finished.report = reports) ∧
        (run settings files surface).console = reports.flatMap (block settings) ++ overlayLines settings) ∧
    (∀ e, analyzeDirectory files settings = .error e →
      settings.plotsDir.text.utf8ByteSize < pathLimit ∨ (∀ cause, e ≠ .loading cause) →
        (run settings files surface).result = .error e) ∧
    ∀ cause, analyzeDirectory files settings = .error (.loading cause) →
      pathLimit ≤ settings.plotsDir.text.utf8ByteSize →
        (run settings files surface).result = .error (.inaccessible .nameTooLong) := by
  cases hresult : (run settings files surface).result with
  | ok dir =>
      obtain ⟨made, done, extra, hcompleted⟩ := completed_of_ok hresult
      have hanalysis := hcompleted.analyzeDirectory_eq hapart
      rw [hanalysis]
      refine ⟨⟨fun _ => ⟨_, rfl⟩, fun _ => ⟨dir, rfl⟩⟩, ?_, fun _ h => (by cases h), fun _ h => (by cases h)⟩
      intro reports hreports
      cases hreports
      refine ⟨⟨made, done, extra, hcompleted, rfl⟩, ?_⟩
      rw [hcompleted.console, blocks, List.flatMap_map]
  | error e =>
      rcases hapart.analyzeDirectory_of_error hdrawn hresult with ⟨hanalysis, hshort⟩ | ⟨rfl, hlong, hanalysis⟩
      · rw [hanalysis]
        refine ⟨by simp only [reduceCtorEq, exists_false], fun _ h => (by cases h), ?_, ?_⟩
        · intro e' he' _
          cases he'
          rfl
        · intro cause hcause hlong
          cases hcause
          rcases hshort with hshort | hcause
          · exact absurd hlong (Nat.not_le.mpr hshort)
          · exact absurd rfl (hcause cause)
      · rw [hanalysis]
        refine ⟨by simp only [reduceCtorEq, exists_false], fun _ h => (by cases h), ?_, fun _ _ _ => rfl⟩
        intro e' he' hshort
        cases he'
        rcases hshort with hshort | hcause
        · exact absurd hlong (Nat.not_le.mpr hshort)
        · exact absurd rfl (hcause _)

theorem apart_namesakes : Apart namesakeSettings namesakes where
  world := isWorld_namesakes
  plots r hdir := by
    cases hdir
    exact Or.inl rfl
  counts r paths hdir hpaths path hpath d hd := by
    cases hdir
    rw [discover_namesakes] at hpaths
    cases hpaths
    have hload (d' : Descriptor) (hopen : namesakes.openEntry path = .ok (.file (.bytes d'.text.toByteArray.toList))) :
        d = d' := Loading.eq_of_loadDescriptor_text hopen hd
    simp only [List.mem_cons, List.not_mem_nil, or_false] at hpath
    rcases hpath with rfl | rfl
    · rw [hload ⟨"x/y", 1, 1, "a.bin", "int32", none⟩ rfl]
      decide +kernel
    · rw [hload ⟨"x_y", 1, 1, "b.bin", "int32", none⟩ rfl]
      decide +kernel

theorem chartsDrawn_namesakes : ChartsDrawn namesakeSettings namesakes .sound := by
  intro e he
  obtain ⟨dir, hok⟩ := exists_ok_namesakes
  rw [hok] at he
  cases he

theorem run_agrees_namesakes :
    ∃ reports, analyzeDirectory namesakes namesakeSettings = .ok reports ∧
      (run namesakeSettings namesakes .sound).console = reports.flatMap (block namesakeSettings) := by
  obtain ⟨hiff, hsame, -⟩ := run_agrees apart_namesakes chartsDrawn_namesakes
  obtain ⟨reports, hreports⟩ := hiff.mp exists_ok_namesakes
  refine ⟨reports, hreports, ?_⟩
  rw [(hsame reports hreports).2]
  exact List.append_nil _

/-! ### A directory whose path is almost too long -/

/-- A path with slashes at its end. -/
def slashed (n : Nat) : Path := ⟨String.ofList ('r' :: List.replicate n '/')⟩

theorem toList_slashed (n : Nat) : (slashed n).text.toList = 'r' :: List.replicate n '/' := String.toList_ofList

theorem endsInSlash_slashed (n : Nat) : (slashed (n + 1)).text.toList.getLast? = some '/' := by
  rw [toList_slashed, List.replicate_succ', ← List.cons_append, List.getLast?_concat]

theorem splitOn_slashes (n : Nat) : ((List.replicate n '/').splitOn '/').filterMap Path.stepOf = [] := by
  induction n with
  | zero => rfl
  | succ n ih =>
      rw [List.replicate_succ, ← List.nil_append ('/' :: _), List.splitOn_append_cons_self, List.filterMap_append, ih]
      rfl

theorem steps_slashed (n : Nat) : (slashed (n + 1)).steps = [.down "r", .stay] := by
  have hsplit : 'r' :: List.replicate (n + 1) '/' = ['r'] ++ '/' :: List.replicate n '/' := by
    rw [List.replicate_succ, List.singleton_append]
  rw [Path.steps, if_pos (endsInSlash_slashed n), Path.segments, toList_slashed, hsplit, List.splitOn_append_cons_self,
    List.filterMap_append, splitOn_slashes]
  rfl

theorem length_utf8_slashed (n : Nat) : (Text.utf8 ('r' :: List.replicate n '/')).length = n + 1 := by
  induction n with
  | zero => rfl
  | succ n ih =>
      rw [List.replicate_succ', ← List.cons_append, Text.utf8_append, List.length_append, ih]
      rfl

theorem isUsable_slashed {n : Nat} (h : n + 1 < pathLimit) : IsUsable (slashed n) where
  no_nul := by
    rw [toList_slashed, List.contains_iff_mem, List.mem_cons, List.mem_replicate]
    rintro (heq | ⟨-, heq⟩) <;> exact absurd heq (by decide)
  nonempty := by
    rw [String.isEmpty_iff, ← String.toList_eq_nil_iff, toList_slashed]
    exact List.cons_ne_nil _ _
  short := by
    rw [← Text.length_utf8, toList_slashed, length_utf8_slashed]
    exact Nat.not_le.mpr h

/-- A descriptor in a directory. What it says does not matter. -/
def lonely : FileSystem where
  entries := [(["r"], .directory), (["a.meta.json", "r"], .file (.bytes []))]
  workingDirectory := []

def farSettings : Settings := { Settings.ofDirectory (slashed 4090) with quiet := true }

theorem isWorld_lonely : lonely.IsWorld :=
  ⟨List.forall_mem_cons.mpr ⟨rfl, List.forall_mem_cons.mpr ⟨rfl, List.forall_mem_nil _⟩⟩, by decide, by decide⟩

theorem resolve_far : lonely.resolve true farSettings.resultsDir = .ok (.occupied ["r"] .directory) := by
  refine resolve_eq_ok_iff.mpr ⟨isUsable_slashed (by decide), ?_⟩
  have hstart : start lonely.workingDirectory farSettings.resultsDir = [] := by
    rw [start]
    split <;> rfl
  have hsteps : farSettings.resultsDir.steps = [.down "r", .stay] := steps_slashed 4089
  rw [hstart, hsteps]
  exact .direct (.enter (by decide) rfl (.stay .arrived))

theorem discover_far : discover lonely farSettings.resultsDir = .ok [farSettings.resultsDir.join ⟨"a.meta.json"⟩] := by
  have hnames : descriptorNames (lonely.children ["r"]) = ["a.meta.json"] :=
    descriptorNames_eq (by decide +kernel) (List.pairwise_singleton _ _)
  refine discover_eq_ok_iff.mpr ⟨["r"], resolve_far, ?_, ?_⟩ <;> rw [hnames]
  · exact List.cons_ne_nil _ _
  · rfl

theorem not_fits_far : ¬Fits farSettings.resultsDir "plots" := by
  refine not_not_intro (Or.inl ?_)
  have hfront : farSettings.resultsDir.front = 'r' :: List.replicate 4090 '/' := by
    have hlast : (slashed 4090).text.toList.getLast? = some '/' := endsInSlash_slashed 4089
    show (slashed 4090).front = _
    rw [Path.front, hlast, if_pos (by rfl), toList_slashed]
  rw [Path.utf8ByteSize_join _ isName_plots.no_slash, hfront, length_utf8_slashed]
  decide

theorem apart_far : Apart farSettings lonely where
  world := isWorld_lonely
  plots r hdir := by
    rw [resolve_far] at hdir
    cases hdir
    exact Or.inl rfl
  counts r paths hdir hpaths path hpath d hd := by
    rw [Loading.loadDescriptor, openEntry_of_not_fits isWorld_lonely resolve_far hpaths not_fits_far hpath] at hd
    cases hd

theorem run_far : (run farSettings lonely .sound).result = .error (.inaccessible .nameTooLong) := by
  have hmade : lonely.ensureDirectory farSettings.plotsDir = .error .nameTooLong := by
    rw [apart_far.ensureDirectory_eq resolve_far, if_neg not_fits_far]
  rw [(Course.unprepared discover_far hmade).run_eq]

/-- A run and an analysis can fail with different errors. -/
theorem not_same_error :
    ¬∀ (settings : Settings) (files : FileSystem) (surface : Surface), Apart settings files →
      ChartsDrawn settings files surface → ∀ cause, analyzeDirectory files settings = .error (.loading cause) →
        (run settings files surface).result = .error (.loading cause) := by
  intro hall
  have hdrawn : ChartsDrawn farSettings lonely .sound := by
    intro e he
    rw [run_far] at he
    cases he
  have hanalysis := analyzeDirectory_of_not_fits isWorld_lonely resolve_far discover_far not_fits_far
  have hrun := hall farSettings lonely .sound apart_far hdrawn _ hanalysis
  rw [run_far] at hrun
  cases hrun

end Occupancy.Run
