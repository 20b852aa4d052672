/-! Numbers given on the command line: decimal digits after at most one plus sign, below `2 ^ 32`. The characters
are judged one by one, so that a number that has grown too large is not looked at any further. -/

namespace Occupancy.CommandLine

inductive NumberError
  | empty
  | invalidDigit
  | tooLarge
deriving Repr, DecidableEq

def NumberError.message : NumberError → String
  | empty => "cannot parse integer from empty string"
  | invalidDigit => "invalid digit found in string"
  | tooLarge => "number too large to fit in target type"

/-- Appends digits to a number. -/
def appendDigits (value : Nat) : List Char → Except NumberError Nat
  | [] => .ok value
  | c :: cs =>
    if c.isDigit then
      let next := 10 * value + (c.toNat - '0'.toNat)
      if next < 0x100000000 then appendDigits next cs else .error .tooLarge
    else .error .invalidDigit

def readNumber (text : String) : Except NumberError UInt32 :=
  match text.toList with
  | [] => .error .empty
  | ['+'] => .error .invalidDigit
  | '+' :: digits => (appendDigits 0 digits).map UInt32.ofNat
  | digits => (appendDigits 0 digits).map UInt32.ofNat

end Occupancy.CommandLine
