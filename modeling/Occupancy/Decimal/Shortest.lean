import Occupancy.Decimal.Text

/-! The fewest decimal digits that read back as the same binary64 number. A number is written by the grid
`10 ^ k` of the largest step that has a point closer to it than to any other binary64 number; of two such points
the nearer one is taken. -/

namespace Occupancy.Decimal

/-- The numbers that read as `b`, scaled by four units of its last place: lower end, `b` itself, upper end. The
step below a power of two is half as wide. -/
structure Neighbourhood where
  lower : Nat
  value : Nat
  upper : Nat
  closed : Bool

def Binary.neighbourhood (b : Binary) : Neighbourhood where
  lower := 4 * b.significand - if b.significand = implicitBit ∧ -1074 < b.exponent then 1 else 2
  value := 4 * b.significand
  upper := 4 * b.significand + 2
  closed := b.significand % 2 == 0

def Neighbourhood.contains (n : Neighbourhood) (num den : Nat) : Bool :=
  if n.closed then n.lower * den ≤ num && num ≤ n.upper * den
  else n.lower * den < num && num < n.upper * den

/-- The point of the grid `10 ^ step` that stands for `b`, if there is one. -/
def gridPoint? (b : Binary) (step : Int) : Option Nat :=
  let n := b.neighbourhood
  let num := power10 (-step).toNat <<< (b.exponent - 2).toNat
  let den := power10 step.toNat <<< (2 - b.exponent).toNat
  let below := n.value * num / den
  let inside (point : Nat) : Bool := n.contains (point * den) num
  match inside below, inside (below + 1) with
  | true, true =>
    match compare (2 * (n.value * num)) ((2 * below + 1) * den) with
    | .lt => some below
    | .gt => some (below + 1)
    | .eq => some (below + below % 2)
  | true, false => some below
  | false, true => some (below + 1)
  | false, false => none

/-- Digits `d` and step `k` of the shortest decimal `d · 10 ^ k` for a number other than zero. Seventeen digits
always suffice, so the search ends in one of the seventeen grids. -/
def shortestDigits (b : Binary) : Nat × Int :=
  let top := decade b.numerator b.denominator
  let found := (List.range 17).findSome? fun (more : Nat) => (gridPoint? b (top - more)).map (·, top - more)
  match found with
  | none => (b.numerator, 0)
  | some (digits, step) => if digits % 10 = 0 then (digits / 10, step + 1) else (digits, step)

/-- How a shortest decimal is laid out: positional while the power of ten of its first digit is between `least`
and `most`, and then always with a digit after the point; else one digit, the others after a point, and a signed
power of ten. -/
structure Layout where
  least : Int
  most : Int

def Layout.text (layout : Layout) (digits : Nat) (step : Int) : String :=
  let ds := toString digits
  let power : Int := step + ds.length - 1
  if layout.least ≤ power && power ≤ layout.most then
    if 0 ≤ step then ds ++ "".pushn '0' step.toNat ++ ".0"
    else if 0 ≤ power then
      String.ofList (ds.toList.take (power.toNat + 1)) ++ "." ++ String.ofList (ds.toList.drop (power.toNat + 1))
    else "0." ++ "".pushn '0' (-power - 1).toNat ++ ds
  else
    let rest := String.ofList (ds.toList.drop 1)
    String.ofList (ds.toList.take 1) ++ (if rest.isEmpty then "" else "." ++ rest)
      ++ "e" ++ (if power < 0 then "-" else "+") ++ toString power.natAbs

def shortest (layout : Layout) (x : Float) : String :=
  match Reading.ofFloat x with
  | .notANumber => "NaN"
  | .infinite negative => signText negative ++ "inf"
  | .finite value =>
    signText value.negative ++
      if value.significand = 0 then "0.0"
      else
        let (digits, step) := shortestDigits value
        layout.text digits step

end Occupancy.Decimal
