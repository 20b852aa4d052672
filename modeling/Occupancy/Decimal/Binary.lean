import Occupancy.Decimal.Power
import Occupancy.Decimal.Rounding

/-! What a binary64 number stands for, in naturals. A finite number is a significand times a power of two, read
from the three fields of its bits; every decimal text is computed from that exact value. In the other direction
`nearest` is the binary64 number closest to a quotient, ties going to the even significand. -/

namespace Occupancy.Decimal

/-- A finite number, `significand · 2 ^ exponent` with a sign of its own, so that minus zero is kept apart. -/
structure Binary where
  negative : Bool
  significand : Nat
  exponent : Int
deriving Repr, DecidableEq

namespace Binary

def numerator (b : Binary) : Nat := b.significand <<< b.exponent.toNat

def denominator (b : Binary) : Nat := 1 <<< (-b.exponent).toNat

end Binary

inductive Reading
  | notANumber
  | infinite (negative : Bool)
  | finite (value : Binary)
deriving Repr, DecidableEq

/-- The bit in front of the fraction, `2 ^ 52`. It is not stored. -/
def implicitBit : Nat := 0x10000000000000

namespace Reading

/-- Reads the sign bit, the eleven exponent bits and the fifty-two fraction bits. -/
def ofBits (bits : Nat) : Reading :=
  let negative := bits >>> 63 % 2 == 1
  let fraction := bits % implicitBit
  match bits >>> 52 % 2048 with
  | 0 => .finite ⟨negative, fraction, -1074⟩
  | 2047 => if fraction = 0 then .infinite negative else .notANumber
  | field => .finite ⟨negative, implicitBit + fraction, field - 1075⟩

def ofFloat (x : Float) : Reading := ofBits x.toBits.toNat

end Reading

/-- The exponent `t` with `2 ^ t ≤ num / den < 2 ^ (t + 1)`, for a positive quotient. -/
def binade (num den : Nat) : Int :=
  let t : Int := (num.log2 : Int) - den.log2
  if num <<< (-t).toNat < den <<< t.toNat then t - 1 else t

/-- The bits of the binary64 number nearest to `num / den`; past the largest one it is infinity. -/
def nearestBits (num den : Nat) : Nat :=
  if num = 0 then 0
  else
    let exponent := max (binade num den - 52) (-1074)
    let significand := roundDiv (num <<< (-exponent).toNat) (den <<< exponent.toNat)
    min ((exponent + 1074).toNat <<< 52 + significand) (2047 <<< 52)

def nearest (num den : Nat) : Float := Float.ofBits (UInt64.ofNat (nearestBits num den))

/-- The binary64 number nearest to `digits · 10 ^ exponent`. -/
def nearestScaled (digits : Nat) (exponent : Int) : Float :=
  nearest (digits * power10 exponent.toNat) (power10 (-exponent).toNat)

end Occupancy.Decimal
