import Occupancy.Json.Numeral

/-! Passing over a value of any kind. The lists and objects that are open are kept on a stack, so that values may
be nested to any depth. -/

namespace Occupancy.Json

open Ascii

inductive Frame
  | list
  | object
deriving DecidableEq, Repr

namespace Frame

def closer : Frame → UInt8
  | list => closeBracket
  | object => closeBrace

def unfinished : Frame → Fault
  | list => .endInList
  | object => .endInObject

def commaExpected : Frame → Fault
  | list => .listCommaExpected
  | object => .objectCommaExpected

end Frame

/-- Passes over the colon of a member. -/
def colon (s : List UInt8) : Outcome (List UInt8) :=
  match skipBlanks s with
  | [] => fail .endInObject []
  | b :: rest => if b = Ascii.colon then .ok rest else fail .colonExpected rest

/-- Passes over the key of a member, colon included. -/
def passKey (s : List UInt8) : Outcome (List UInt8) :=
  match skipBlanks s with
  | [] => fail .endInObject []
  | b :: rest =>
    if b = quoteMark then do
      let rest ← passQuoted rest
      colon rest
    else fail .keyExpected rest

/-- What comes next inside the frame of an open list or object: the value itself, or the value after a key. -/
def Frame.beforeValue (frame : Frame) (s : List UInt8) : Outcome (List UInt8) :=
  match frame with
  | .list => .ok s
  | .object => passKey s

/-- How far a value has been passed over. -/
inductive Progress
  | expecting
  | done
  | opened (frame : Frame)

/-- Passes over one token of a value that starts with `b`. -/
def passToken (b : UInt8) (rest : List UInt8) : Outcome (Progress × List UInt8) :=
  let atom (passed : Outcome (List UInt8)) : Outcome (Progress × List UInt8) := passed.map (.done, ·)
  if b = lowerN then atom (word ull rest)
  else if b = lowerT then atom (word rue rest)
  else if b = lowerF then atom (word alse rest)
  else if b = minus then atom (passNumber rest)
  else if isDigit b then atom (passNumber (b :: rest))
  else if b = quoteMark then atom (passQuoted rest)
  else if b = openBracket then .ok (.opened .list, rest)
  else if b = openBrace then .ok (.opened .object, rest)
  else fail .valueExpected rest

/-- Passes over the value that `progress` and the open frames leave to be read. A round takes a byte or ends, but
for the round behind an opening bracket, so fuel beyond twice the number of bytes is never used up. -/
def pass : Nat → Progress → List Frame → List UInt8 → Outcome (List UInt8)
  | 0, _, _, _ => fail .endInValue []
  | fuel + 1, .expecting, stack, s =>
    match skipBlanks s with
    | [] => fail .endInValue []
    | b :: rest => do
      let (progress, rest) ← passToken b rest
      pass fuel progress stack rest
  | fuel + 1, .opened frame, stack, s =>
    match skipBlanks s with
    | [] => fail frame.unfinished []
    | b :: rest =>
      if b = frame.closer then pass fuel .done stack rest
      else do
        let rest ← frame.beforeValue (b :: rest)
        pass fuel .expecting (frame :: stack) rest
  | _ + 1, .done, [], s => .ok s
  | fuel + 1, .done, frame :: stack, s =>
    match skipBlanks s with
    | [] => fail frame.unfinished []
    | b :: rest =>
      if b = comma then do
        let rest ← frame.beforeValue rest
        pass fuel .expecting (frame :: stack) rest
      else if b = frame.closer then pass fuel .done stack rest
      else fail frame.commaExpected rest

def passValue (s : List UInt8) : Outcome (List UInt8) := pass (2 * s.length + 2) .expecting [] s

end Occupancy.Json
