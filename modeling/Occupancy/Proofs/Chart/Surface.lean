import Occupancy.Chart.Surface

/-! What drawing a chart leaves behind. A chart is drawn when there is one, every call of it is made and its file is
written; otherwise drawing fails and the files are as they were. -/

namespace Occupancy.Chart

variable {files written : FileSystem} {surface later : Surface} {path : Path}
  {chart : Except ChartError (Drawing Float)} {drawing : Drawing Float}

/-- A chart that gets drawn, with the files and the surface that it leaves behind. -/
structure Draws (files : FileSystem) (surface : Surface) (path : Path) (chart : Except ChartError (Drawing Float))
    (drawing : Drawing Float) (written : FileSystem) (later : Surface) : Prop where
  exists_chart : chart = .ok drawing
  performed : perform surface drawing = (.ok (), later)
  wrote : files.write path (.chart drawing) = .ok written

theorem Draws.drawIfAny_eq (h : Draws files surface path chart drawing written later) :
    drawIfAny files surface path chart = ⟨written, later, .ok path⟩ := by
  rw [h.exists_chart, drawIfAny, draw, h.performed]
  simp only [h.wrote]

/-- A chart is drawn, or it fails without a trace in the files. -/
theorem draws_or_fails (files : FileSystem) (surface : Surface) (path : Path)
    (chart : Except ChartError (Drawing Float)) :
    (∃ drawing written later, Draws files surface path chart drawing written later) ∨
      ∃ e last, drawIfAny files surface path chart = ⟨files, last, .error e⟩ := by
  cases chart with
  | error e => exact Or.inr ⟨e, surface, rfl⟩
  | ok drawing =>
      rw [drawIfAny, draw]
      cases hperform : perform surface drawing with
      | mk result later =>
          cases result with
          | error e => exact Or.inr ⟨e, later, rfl⟩
          | ok =>
              cases hwrite : files.write path (.chart drawing) with
              | error e => exact Or.inr ⟨_, later, rfl⟩
              | ok written => exact Or.inl ⟨drawing, written, later, rfl, hperform, hwrite⟩

/-- A call that fails does so with the error of its stage. -/
theorem perform_eq_error {e : ChartError} (h : perform surface drawing = (.error e, later)) :
    ∃ stage reason, e = Stage.error stage reason := by
  induction drawing generalizing surface with
  | nil => cases h
  | cons call calls ih =>
      rw [perform] at h
      split at h
      · exact ih h
      · split at h
        · cases h
          exact ⟨_, _, rfl⟩
        · exact ih h

/-- How it comes that there is no chart to draw: there is no data, or what it shows cannot be computed. -/
def IsOfData : ChartError → Prop
  | .invalidData _ | .overflow _ => True
  | .drawingArea _ | .chartConfig _ | .drawing _ => False

/-- Neither calls nor the writing of the file find fault with the data. -/
theorem not_isOfData_of_drawIfAny {e : ChartError} {last : Surface}
    (h : drawIfAny files surface path (.ok drawing) = ⟨written, last, .error e⟩) : ¬IsOfData e := by
  rw [drawIfAny, draw] at h
  split at h
  · rename_i hperform
    cases h
    obtain ⟨stage, cause, rfl⟩ := perform_eq_error hperform
    cases stage <;> exact id
  · split at h
    · cases h
      exact id
    · cases h

/-! ### A sound surface -/

theorem perform_sound (drawing : Drawing Float) : perform .sound drawing = (.ok (), .sound) := by
  induction drawing with
  | nil => rfl
  | cons call calls ih =>
      rw [perform]
      cases call.stage? with
      | none => exact ih
      | some stage => exact ih

theorem draws_sound (hchart : chart = .ok drawing) (hwrite : files.write path (.chart drawing) = .ok written) :
    Draws files .sound path chart drawing written .sound := ⟨hchart, perform_sound drawing, hwrite⟩

/-- On a sound surface only the file can stand in the way of a chart. -/
theorem drawIfAny_sound_of_unwritable (hchart : chart = .ok drawing)
    (hunwritable : ∀ written, files.write path (.chart drawing) ≠ .ok written) :
    drawIfAny files .sound path chart = ⟨files, .sound, .error (.drawing "cannot write chart file")⟩ := by
  rw [hchart, drawIfAny, draw, perform_sound]
  cases hwrite : files.write path (.chart drawing) with
  | error e => rfl
  | ok written => exact absurd hwrite (hunwritable written)

end Occupancy.Chart
