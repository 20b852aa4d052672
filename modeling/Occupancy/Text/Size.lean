import Occupancy.Decimal.Text

/-! Sizes in bytes as they are shown: below 1024 the number itself, else one place behind the point in the largest
power of 1024 that is not above the size. The size is rounded to binary64 before its unit is chosen. -/

namespace Occupancy.Text

def unitName : Nat → String
  | 0 => "B"
  | 1 => "KiB"
  | 2 => "MiB"
  | 3 => "GiB"
  | 4 => "TiB"
  | 5 => "PiB"
  | _ => "EiB"

/-- The power of 1024 that a size is shown in. -/
def unitPower (size : UInt64) : Nat := size.toFloat.toUInt64.toNat.log2 / 10

def sizeText (size : UInt64) : String :=
  if size < 1024 then s!"{size} B"
  else
    let power := unitPower size
    Decimal.fixed 1 (size.toFloat / (1 <<< (10 * power) : Nat).toFloat) ++ " " ++ unitName power

end Occupancy.Text
