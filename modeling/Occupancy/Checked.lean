/-! Sums of 64-bit numbers that are checked. Where 64 bits cannot hold a sum the program ends: there is no result to go
on with, and no error that is returned. -/

namespace Occupancy

/-- Why the program ends in the middle of its arithmetic. -/
inductive Overflow
  | add
deriving Repr, DecidableEq

def Overflow.message : Overflow → String
  | add => "attempt to add with overflow"

namespace Checked

def add (a b : UInt64) : Except Overflow UInt64 :=
  if a.toNat + b.toNat < UInt64.size then .ok (a + b) else .error .add

/-- The numbers are added up from the first to the last. -/
def sum (values : List UInt64) : Except Overflow UInt64 := values.foldlM add 0

end Checked

end Occupancy
