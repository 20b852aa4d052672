import Occupancy.Text.Alphanumeric

/-! File names of charts. An algorithm may have any name; in the name of its file every character that is not a
letter, a digit or one of `.`, `_` and `-` is written as `_`, so that no name leads out of the directory. -/

namespace Occupancy.Chart

def isSafe (c : Char) : Bool := Text.isAlphanumeric c || c == '.' || c == '_' || c == '-'

def safeChar (c : Char) : Char := if isSafe c then c else '_'

def safeName (name : String) : String := String.ofList (name.toList.map safeChar)

def fileName (algorithm : String) : String := "hist_" ++ safeName algorithm ++ ".png"

def overlayFileName : String := "hist_overlay.png"

theorem isSafe_safeChar (c : Char) : isSafe (safeChar c) = true := by
  unfold safeChar
  split
  · assumption
  · simp [isSafe]

theorem safeChar_of_isSafe {c : Char} (h : isSafe c = true) : safeChar c = c := if_pos h

theorem safeChar_safeChar (c : Char) : safeChar (safeChar c) = safeChar c :=
  safeChar_of_isSafe (isSafe_safeChar c)

end Occupancy.Chart
