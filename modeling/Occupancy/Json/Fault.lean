import Occupancy.Decimal.Shortest
import Occupancy.Text.Quoted

/-! What can be wrong with a JSON text, and where. A reader that stops reports the bytes it has not taken; the
place of the fault is that of the last byte it has taken, looked-at bytes included. -/

namespace Occupancy.Json

/-- A number literal: without a sign, fraction or exponent and below `2 ^ 64`; with a sign, nonzero and not below
`-2 ^ 63`; or any other, as a binary64 number. -/
inductive Number
  | natural (magnitude : Nat)
  | negative (magnitude : Nat)
  | real (value : Float)

/-- What stands where something else is expected. -/
inductive Found
  | null
  | boolean (value : Bool)
  | number (value : Number)
  | string (value : String)
  | list
  | object

inductive Fault
  | endInList
  | endInObject
  | endInString
  | endInValue
  | colonExpected
  | listCommaExpected
  | objectCommaExpected
  | wordExpected
  | valueExpected
  | keyExpected
  | badEscape
  | badNumber
  | numberTooLarge
  | badCharacter
  | controlCharacter
  | loneSurrogate
  | cutSurrogatePair
  | trailingComma
  | trailingText
  | wrongType (found : Found) (expected : String)
  | wrongValue (found : Found) (expected : String)
  | wrongLength (length : Nat) (expected : String)
  | missingKey (key : String)
  | repeatedKey (key : String)

/-- Reals are written by the fewest digits that read back. -/
def realLayout : Decimal.Layout := ⟨-5, 15⟩

def Number.text : Number → String
  | .natural n => s!"integer `{n}`"
  | .negative n => s!"integer `-{n}`"
  | .real x => "floating point `" ++ Decimal.shortest realLayout x ++ "`"

def Found.text : Found → String
  | .null => "null"
  | .boolean true => "boolean `true`"
  | .boolean false => "boolean `false`"
  | .number n => n.text
  | .string s => "string " ++ Text.quote s
  | .list => "sequence"
  | .object => "map"

def Fault.message : Fault → String
  | .endInList => "EOF while parsing a list"
  | .endInObject => "EOF while parsing an object"
  | .endInString => "EOF while parsing a string"
  | .endInValue => "EOF while parsing a value"
  | .colonExpected => "expected `:`"
  | .listCommaExpected => "expected `,` or `]`"
  | .objectCommaExpected => "expected `,` or `\x7d`"
  | .wordExpected => "expected ident"
  | .valueExpected => "expected value"
  | .keyExpected => "key must be a string"
  | .badEscape => "invalid escape"
  | .badNumber => "invalid number"
  | .numberTooLarge => "number out of range"
  | .badCharacter => "invalid unicode code point"
  | .controlCharacter => "control character (\\u0000-\\u001F) found while parsing a string"
  | .loneSurrogate => "lone leading surrogate in hex escape"
  | .cutSurrogatePair => "unexpected end of hex escape"
  | .trailingComma => "trailing comma"
  | .trailingText => "trailing characters"
  | .wrongType found expected => "invalid type: " ++ found.text ++ ", expected " ++ expected
  | .wrongValue found expected => "invalid value: " ++ found.text ++ ", expected " ++ expected
  | .wrongLength length expected => "invalid length " ++ toString length ++ ", expected " ++ expected
  | .missingKey key => "missing field `" ++ key ++ "`"
  | .repeatedKey key => "duplicate field `" ++ key ++ "`"

/-- A fault with the bytes that were not taken. -/
structure Failure where
  fault : Fault
  unread : List UInt8

abbrev Outcome (α : Type) : Type := Except Failure α

/-- A fault found after `unread` was left over. -/
def fail {α : Type} (fault : Fault) (unread : List UInt8) : Outcome α := .error ⟨fault, unread⟩

/-- A fault at a line, counted from one, and the number of bytes taken from that line. -/
structure SyntaxError where
  fault : Fault
  line : Nat
  column : Nat

def Failure.locate (failure : Failure) (source : List UInt8) : SyntaxError :=
  let taken := source.take (source.length - failure.unread.length)
  { fault := failure.fault
    line := taken.count 10 + 1
    column := (taken.reverse.takeWhile (· != 10)).length }

def SyntaxError.message (e : SyntaxError) : String :=
  e.fault.message ++ s!" at line {e.line} column {e.column}"

end Occupancy.Json
