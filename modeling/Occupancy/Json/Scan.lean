import Occupancy.Json.Fault
import Occupancy.Text.Ascii

/-! The tokens of a JSON text, read off the front of a list of bytes. Each reader returns what it has read with
the bytes behind it. -/

namespace Occupancy.Json

open Ascii

def isBlank (b : UInt8) : Bool := b == space || b == lineFeed || b == tab || b == carriageReturn

def skipBlanks (s : List UInt8) : List UInt8 := s.dropWhile isBlank

/-- Reads the rest of a word whose first letter is already read. -/
def word : List UInt8 → List UInt8 → Outcome (List UInt8)
  | [], s => .ok s
  | _ :: _, [] => fail .endInValue []
  | letter :: letters, b :: s => if b = letter then word letters s else fail .wordExpected s

def ull : List UInt8 := [117, 108, 108]

def rue : List UInt8 := [114, 117, 101]

def alse : List UInt8 := [97, 108, 115, 101]

/-- Where the reader of a string stands: in plain text, after a backslash, among the four digits of an escape, or
in the second half of a surrogate pair, of which the first half is kept. -/
inductive StringState
  | plain
  | escaped
  | digits (read : List UInt8)
  | pairBackslash (high : Nat)
  | pairLetter (high : Nat)
  | pairDigits (high : Nat) (read : List UInt8)

inductive StringStep
  | more (state : StringState) (written : List UInt8)
  | closed
  | stop (fault : Fault)

def isHighSurrogate (unit : Nat) : Bool := 0xD800 ≤ unit && unit ≤ 0xDBFF

def isLowSurrogate (unit : Nat) : Bool := 0xDC00 ≤ unit && unit ≤ 0xDFFF

def pairCode (high low : Nat) : Nat := 0x10000 + (high - 0xD800) * 0x400 + (low - 0xDC00)

/-- Bytes of the character with this code point. -/
def codeBytes (code : Nat) : List UInt8 := String.utf8EncodeChar (Char.ofNat code)

def afterEscape (b : UInt8) : StringStep :=
  if b = quoteMark ∨ b = backslash ∨ b = 47 then .more .plain [b]
  else if b = 98 then .more .plain [8]
  else if b = lowerF then .more .plain [12]
  else if b = lowerN then .more .plain [10]
  else if b = 114 then .more .plain [13]
  else if b = lowerT then .more .plain [9]
  else if b = lowerU then .more (.digits []) []
  else .stop .badEscape

/-- The four digits of an escape are read. A surrogate has to be half of a pair, unless the string is only passed
over. -/
def afterDigits (keep : Bool) (read : List UInt8) : StringStep :=
  match hexNumber? read with
  | none => .stop .badEscape
  | some unit =>
    if !keep then .more .plain []
    else if isLowSurrogate unit then .stop .loneSurrogate
    else if isHighSurrogate unit then .more (.pairBackslash unit) []
    else .more .plain (codeBytes unit)

def afterPair (high : Nat) (read : List UInt8) : StringStep :=
  match hexNumber? read with
  | none => .stop .badEscape
  | some unit =>
    if isLowSurrogate unit then .more .plain (codeBytes (pairCode high unit)) else .stop .loneSurrogate

def StringState.step (keep : Bool) (b : UInt8) : StringState → StringStep
  | .plain =>
    if b = quoteMark then .closed
    else if b = backslash then .more .escaped []
    else if b < 32 then .stop .controlCharacter
    else .more .plain [b]
  | .escaped => afterEscape b
  | .digits read => if read.length < 3 then .more (.digits (read ++ [b])) [] else afterDigits keep (read ++ [b])
  | .pairBackslash high => if b = backslash then .more (.pairLetter high) [] else .stop .cutSurrogatePair
  | .pairLetter high => if b = lowerU then .more (.pairDigits high []) [] else .stop .cutSurrogatePair
  | .pairDigits high read =>
    if read.length < 3 then .more (.pairDigits high (read ++ [b])) [] else afterPair high (read ++ [b])

/-- Reads a string behind its opening quote; `written` is what it stands for so far, in reverse. -/
def stringBytes (keep : Bool) : StringState → List UInt8 → List UInt8 → Outcome (List UInt8 × List UInt8)
  | _, _, [] => fail .endInString []
  | state, written, b :: s =>
    match state.step keep b with
    | .more next more => stringBytes keep next (more.reverse ++ written) s
    | .closed => .ok (written.reverse, s)
    | .stop fault => fail fault s

/-- The number of bytes at the front of `bytes`, from position `i` on, that are whole characters. -/
def wellFormed (bytes : ByteArray) (i : Nat) : Nat → Nat
  | 0 => i
  | fuel + 1 =>
    match bytes.utf8DecodeChar? i with
    | none => i
    | some c => wellFormed bytes (i + c.utf8Size) fuel

/-- Reads a string behind its opening quote. The bytes it stands for have to be UTF-8; the place of the fault is as
many bytes before the end of the string as there are bytes from the first bad one on, escapes counting as what they
stand for. -/
def quoted (s : List UInt8) : Outcome (String × List UInt8) := do
  let (bytes, rest) ← stringBytes true .plain [] s
  let text := bytes.toByteArray
  match String.fromUTF8? text with
  | some text => .ok (text, rest)
  | none => fail .badCharacter (s.drop (s.length - rest.length - (text.size - wellFormed text 0 text.size)))

/-- Passes over a string behind its opening quote. Neither its bytes nor its surrogates are looked at. -/
def passQuoted (s : List UInt8) : Outcome (List UInt8) := do
  let (_, rest) ← stringBytes false .plain [] s
  .ok rest

end Occupancy.Json
