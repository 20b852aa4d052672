import Occupancy.Json.Pass

/-! Values of a required type. Something else in their place is named in the fault: a word, a number or a string is
read to its end for that, a list or an object is only looked at. -/

namespace Occupancy.Json

open Ascii

/-- The fault of a value that is not the expected one; `s` starts with its first byte. -/
def misplaced {α : Type} (expected : String) (s : List UInt8) : Outcome α :=
  match s with
  | [] => fail .valueExpected []
  | b :: rest =>
    if b = lowerN then do
      let rest ← word ull rest
      fail (.wrongType .null expected) rest
    else if b = lowerT then do
      let rest ← word rue rest
      fail (.wrongType (.boolean true) expected) rest
    else if b = lowerF then do
      let rest ← word alse rest
      fail (.wrongType (.boolean false) expected) rest
    else if b = minus then do
      let (n, rest) ← number true rest
      fail (.wrongType (.number n) expected) (rest.drop 1)
    else if isDigit b then do
      let (n, rest) ← number false s
      fail (.wrongType (.number n) expected) (rest.drop 1)
    else if b = quoteMark then do
      let (text, rest) ← quoted rest
      fail (.wrongType (.string text) expected) rest
    else if b = openBracket then fail (.wrongType .list expected) rest
    else if b = openBrace then fail (.wrongType .object expected) rest
    else fail .valueExpected rest

/-- Reads a string. -/
def readString (s : List UInt8) : Outcome (String × List UInt8) :=
  match skipBlanks s with
  | [] => fail .endInValue []
  | b :: rest => if b = quoteMark then quoted rest else misplaced "a string" (b :: rest)

/-- Reads a string or the word for no value. -/
def readOptionalString (s : List UInt8) : Outcome (Option String × List UInt8) :=
  match skipBlanks s with
  | b :: rest =>
    if b = lowerN then do
      let rest ← word ull rest
      .ok (none, rest)
    else do
      let (text, rest) ← readString (b :: rest)
      .ok (some text, rest)
  | [] => fail .endInValue []

/-- The number of a field that holds an integer of 64 bits without sign. -/
def natural (n : Number) (s : List UInt8) : Outcome (UInt64 × List UInt8) :=
  match n with
  | .natural n => .ok (UInt64.ofNat n, s)
  | .negative _ => fail (.wrongValue (.number n) "u64") (s.drop 1)
  | .real _ => fail (.wrongType (.number n) "u64") (s.drop 1)

/-- Reads an integer of 64 bits without sign. -/
def readNatural (s : List UInt8) : Outcome (UInt64 × List UInt8) :=
  match skipBlanks s with
  | [] => fail .endInValue []
  | b :: rest =>
    if b = minus then do
      let (n, rest) ← number true rest
      natural n rest
    else if isDigit b then do
      let (n, rest) ← number false (b :: rest)
      natural n rest
    else misplaced "u64" (b :: rest)

end Occupancy.Json
