import Occupancy.Chart.FileName
import Occupancy.Proofs.Path

/-! File names of charts are names of entries, and two algorithms share a file name exactly when their names differ
at most in characters that file names do not have. -/

namespace Occupancy.Chart

theorem toList_safeName (name : String) : (safeName name).toList = name.toList.map safeChar := String.toList_ofList

theorem mem_fileName {c : Char} {algorithm : String} (h : c ∈ (fileName algorithm).toList) : isSafe c = true := by
  rw [fileName, String.toList_append, String.toList_append, List.mem_append, List.mem_append] at h
  have hfixed : ("hist_".toList ++ ".png".toList).all isSafe = true := by decide +kernel
  rw [List.all_eq_true] at hfixed
  rcases h with (hfront | hname) | hend
  · exact hfixed c (List.mem_append_left _ hfront)
  · rw [toList_safeName, List.mem_map] at hname
    obtain ⟨old, -, rfl⟩ := hname
    exact isSafe_safeChar old
  · exact hfixed c (List.mem_append_right _ hend)

/-- The file of a chart is an entry of the directory that it is drawn into, whatever the algorithm is called. -/
theorem isName_fileName (algorithm : String) : Path.IsName (fileName algorithm) := by
  have hhead : (fileName algorithm).toList.head? = some 'h' := by
    rw [fileName, String.toList_append, String.toList_append]
    rfl
  refine ⟨?_, ?_, ?_, ?_, ?_⟩
  · intro hnil
    rw [hnil] at hhead
    cases hhead
  · intro hstay
    rw [hstay] at hhead
    cases hhead
  · intro hup
    rw [hup] at hhead
    cases hhead
  · intro hslash
    exact absurd (mem_fileName hslash) (by decide +kernel)
  · intro hnul
    exact absurd (mem_fileName hnul) (by decide +kernel)

theorem fileName_eq_iff {a b : String} : fileName a = fileName b ↔ safeName a = safeName b := by
  constructor
  · intro h
    have hlist := congrArg String.toList h
    simp only [fileName, String.toList_append] at hlist
    exact String.toList_inj.mp (List.append_cancel_left (List.append_cancel_right hlist))
  · intro h
    rw [fileName, fileName, h]

theorem overlayFileName_eq : overlayFileName = fileName "overlay" := by decide +kernel

theorem isName_overlayFileName : Path.IsName overlayFileName := overlayFileName_eq ▸ isName_fileName "overlay"

theorem fileName_eq_overlayFileName_iff {algorithm : String} :
    fileName algorithm = overlayFileName ↔ safeName algorithm = "overlay" := by
  rw [overlayFileName_eq, fileName_eq_iff, show safeName "overlay" = "overlay" by decide +kernel]

end Occupancy.Chart
