import Occupancy.Decimal.Binary

/-! Decimal texts of binary64 numbers with a given number of places, positional (`fixed`) and with a power of
ten (`scientific`). The digits are rounded from the exact value, a half going to the even digit; a negative
number keeps its sign also where all its digits are zero. -/

namespace Occupancy.Decimal

def digitCount (n : Nat) : Nat := (toString n).length

/-- The digits of `n`, filled up on the left with zeros to at least `width`. -/
def padded (width n : Nat) : String :=
  let digits := toString n
  "".pushn '0' (width - digits.length) ++ digits

def signText (negative : Bool) : String := if negative then "-" else ""

/-- The texts of the numbers that have no digits. -/
def withSign (finite : Nat → Nat → String) (x : Float) : String :=
  match Reading.ofFloat x with
  | .notANumber => "NaN"
  | .infinite negative => signText negative ++ "inf"
  | .finite value => signText value.negative ++ finite value.numerator value.denominator

/-- The decade `t` with `10 ^ t ≤ num / den < 10 ^ (t + 1)`, for a positive quotient. -/
def decade (num den : Nat) : Int :=
  if den ≤ num then digitCount (num / den) - 1
  else -digitCount ((den + num - 1) / num - 1)

def fixedRatio (places num den : Nat) : String :=
  let scaled := roundDiv (num * power10 places) den
  let whole := toString (scaled / power10 places)
  if places = 0 then whole else whole ++ "." ++ padded places (scaled % power10 places)

/-- Places after the point are always written, also when they are zeros. -/
def fixed (places : Nat) : Float → String := withSign (fixedRatio places)

/-- One digit, the places and the power of ten that `num / den` has after rounding. -/
def scientificParts (places num den : Nat) : Nat × Int :=
  if num = 0 then (0, 0)
  else
    let power := decade num den
    let shift : Int := places - power
    let digits := roundDiv (num * power10 shift.toNat) (den * power10 (-shift).toNat)
    if digits = power10 (places + 1) then (power10 places, power + 1) else (digits, power)

def scientificRatio (places num den : Nat) : String :=
  let (digits, power) := scientificParts places num den
  let mantissa := toString (digits / power10 places)
  let mantissa := if places = 0 then mantissa else mantissa ++ "." ++ padded places (digits % power10 places)
  mantissa ++ "e" ++ toString power

def scientific (places : Nat) : Float → String := withSign (scientificRatio places)

end Occupancy.Decimal
