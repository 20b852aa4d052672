import Occupancy.Text.CodeRange

/-! Blank characters, the Unicode property White_Space, and the words that the tags of a descriptor are compared
as: without blanks at either end and in lower case. Case is that of the Latin letters a to z only. -/

namespace Occupancy.Text

def blank : CodeRanges :=
  [(9, 13), (32, 32), (133, 133), (160, 160), (5760, 5760), (8192, 8202), (8232, 8233), (8239, 8239),
   (8287, 8287), (12288, 12288)]

def isBlank (c : Char) : Bool := blank.contains c

def trim (s : List Char) : List Char := ((s.dropWhile isBlank).reverse.dropWhile isBlank).reverse

def tagWord (tag : String) : List Char := (trim tag.toList).map Char.toLower

end Occupancy.Text
