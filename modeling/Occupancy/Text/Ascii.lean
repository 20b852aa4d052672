/-! The bytes that structure a JSON text, by name, and the byte classes of its numbers and blanks. -/

namespace Occupancy.Ascii

abbrev tab : UInt8 := 9
abbrev lineFeed : UInt8 := 10
abbrev carriageReturn : UInt8 := 13
abbrev space : UInt8 := 32
abbrev quoteMark : UInt8 := 34
abbrev plus : UInt8 := 43
abbrev comma : UInt8 := 44
abbrev minus : UInt8 := 45
abbrev point : UInt8 := 46
abbrev zero : UInt8 := 48
abbrev nine : UInt8 := 57
abbrev colon : UInt8 := 58
abbrev upperE : UInt8 := 69
abbrev openBracket : UInt8 := 91
abbrev backslash : UInt8 := 92
abbrev closeBracket : UInt8 := 93
abbrev lowerE : UInt8 := 101
abbrev lowerF : UInt8 := 102
abbrev lowerN : UInt8 := 110
abbrev lowerT : UInt8 := 116
abbrev lowerU : UInt8 := 117
abbrev openBrace : UInt8 := 123
abbrev closeBrace : UInt8 := 125

def isDigit (b : UInt8) : Bool := zero ≤ b && b ≤ nine

def digitValue (b : UInt8) : Nat := b.toNat - zero.toNat

/-- The value of a hexadecimal digit in either case. -/
def hexValue? (b : UInt8) : Option Nat :=
  if isDigit b then some (digitValue b)
  else if 97 ≤ b && b ≤ 102 then some (b.toNat - 87)
  else if 65 ≤ b && b ≤ 70 then some (b.toNat - 55)
  else none

/-- The value of a sequence of hexadecimal digits. -/
def hexNumber? (digits : List UInt8) : Option Nat :=
  digits.foldlM (fun value b => (hexValue? b).map (16 * value + ·)) 0

end Occupancy.Ascii
