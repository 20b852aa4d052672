import Occupancy.Json.Scan

/-! Number literals. A literal without fraction and exponent that fits a 64-bit integer is read exactly. Any other
is read as a significand of at most 64 bits, taken from the front of its digits, times one power of ten; it is
refused when that product is past the largest binary64 number. -/

namespace Occupancy.Json

open Ascii

def significandLimit : Nat := 0x10000000000000000

/-- Appends digits to a significand while it stays in its limit; also the number of digits that were left out. -/
def extend (significand : Nat) : List UInt8 → Nat × Nat
  | [] => (significand, 0)
  | d :: ds =>
    let next := significand * 10 + digitValue d
    if next < significandLimit then extend next ds else (significand, ds.length + 1)

/-- `f · 10 ^ exponent`, by one power of ten of at most 308 after as many divisions by `10 ^ 308` as it takes. -/
def scale (f : Float) (exponent : Int) : Nat → Option Float
  | fuel =>
    if exponent.natAbs ≤ 308 then
      if 0 ≤ exponent then
        let scaled := f * Decimal.nearestScaled 1 exponent
        if scaled.isInf then none else some scaled
      else some (f / Decimal.nearestScaled 1 exponent.natAbs)
    else if f == 0.0 then some f
    else if 0 ≤ exponent then none
    else
      match fuel with
      | 0 => some f
      | fuel + 1 => scale (f / Decimal.nearestScaled 1 308) (exponent + 308) fuel

/-- The real `significand · 10 ^ exponent`. The byte behind the literal has been looked at. -/
def realNumber (negative : Bool) (significand : Nat) (exponent : Int) (s : List UInt8) :
    Outcome (Number × List UInt8) :=
  match scale (UInt64.ofNat significand).toFloat exponent (exponent.natAbs / 308 + 1) with
  | none => fail .numberTooLarge (s.drop 1)
  | some x => .ok (.real (if negative then -x else x), s)

/-- The digits of an exponent, as a number below `2 ^ 31`; the bytes behind the digit that passes the limit if there
is one. -/
def exponentDigits (exponent : Nat) : List UInt8 → Option Nat × List UInt8
  | [] => (some exponent, [])
  | b :: s =>
    if isDigit b then
      let next := exponent * 10 + digitValue b
      if next < 0x80000000 then exponentDigits next s else (none, s)
    else (some exponent, b :: s)

/-- Reads an exponent behind its letter. -/
def exponent (negative : Bool) (significand : Nat) (start : Int) (s : List UInt8) : Outcome (Number × List UInt8) :=
  let (down, s) : Bool × List UInt8 :=
    match s with
    | b :: rest => if b = minus then (true, rest) else if b = plus then (false, rest) else (false, s)
    | [] => (false, [])
  match s with
  | [] => fail .endInValue []
  | b :: rest =>
    if isDigit b then
      match exponentDigits (digitValue b) rest with
      | (some e, rest) => realNumber negative significand (if down then start - e else start + e) rest
      | (none, rest) =>
        if significand ≠ 0 ∧ down = false then fail .numberTooLarge rest
        else .ok (.real (if negative then -0.0 else 0.0), rest.dropWhile isDigit)
    else fail .badNumber rest

/-- Reads a fraction behind its point. -/
def fraction (negative : Bool) (significand : Nat) (start : Int) (s : List UInt8) : Outcome (Number × List UInt8) :=
  let digits := s.takeWhile isDigit
  let rest := s.dropWhile isDigit
  match digits, rest with
  | [], [] => fail .endInValue []
  | [], _ :: unread => fail .badNumber unread
  | _, _ =>
    let (significand, unused) := extend significand digits
    let power := start - (digits.length - unused : Nat)
    match rest with
    | b :: behind =>
      if b = lowerE ∨ b = upperE then exponent negative significand power behind
      else realNumber negative significand power rest
    | [] => realNumber negative significand power rest

/-- Ends a literal behind its integer digits, of which the last `unused` are not in the significand. -/
def afterInteger (negative : Bool) (significand unused : Nat) (s : List UInt8) : Outcome (Number × List UInt8) :=
  let whole : Outcome (Number × List UInt8) :=
    if 0 < unused then realNumber negative significand unused s
    else if !negative then .ok (.natural significand, s)
    else if 0 < significand ∧ significand ≤ 0x8000000000000000 then .ok (.negative significand, s)
    else .ok (.real (-(UInt64.ofNat significand).toFloat), s)
  match s with
  | b :: behind =>
    if b = point then fraction negative significand unused behind
    else if b = lowerE ∨ b = upperE then exponent negative significand unused behind
    else whole
  | [] => whole

/-- Reads a literal behind its sign. -/
def number (negative : Bool) (s : List UInt8) : Outcome (Number × List UInt8) :=
  match s with
  | [] => fail .endInValue []
  | b :: rest =>
    if b = zero then
      match rest with
      | d :: unread => if isDigit d then fail .badNumber unread else afterInteger negative 0 0 rest
      | [] => afterInteger negative 0 0 rest
    else if isDigit b then
      let (significand, unused) := extend 0 (s.takeWhile isDigit)
      afterInteger negative significand unused (s.dropWhile isDigit)
    else fail .badNumber rest

/-- Passes over an exponent behind its letter. -/
def passExponent (s : List UInt8) : Outcome (List UInt8) :=
  let s :=
    match s with
    | b :: rest => if b = plus ∨ b = minus then rest else s
    | [] => []
  match s with
  | [] => fail .badNumber []
  | b :: rest => if isDigit b then .ok (rest.dropWhile isDigit) else fail .badNumber rest

/-- Passes over a fraction behind its point. -/
def passFraction (s : List UInt8) : Outcome (List UInt8) :=
  match s with
  | [] => fail .badNumber []
  | b :: unread =>
    if isDigit b then
      match s.dropWhile isDigit with
      | c :: behind => if c = lowerE ∨ c = upperE then passExponent behind else .ok (c :: behind)
      | [] => .ok []
    else fail .badNumber unread

/-- Passes over what follows the integer digits. -/
def passTail (s : List UInt8) : Outcome (List UInt8) :=
  match s with
  | b :: behind =>
    if b = point then passFraction behind
    else if b = lowerE ∨ b = upperE then passExponent behind
    else .ok s
  | [] => .ok []

/-- Passes over a literal behind its sign. -/
def passNumber (s : List UInt8) : Outcome (List UInt8) :=
  match s with
  | [] => fail .badNumber []
  | b :: rest =>
    if b = zero then
      match rest with
      | d :: unread => if isDigit d then fail .badNumber unread else passTail rest
      | [] => .ok []
    else if isDigit b then passTail (rest.dropWhile isDigit)
    else fail .badNumber rest

end Occupancy.Json
