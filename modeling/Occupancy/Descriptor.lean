import Occupancy.ByteOrder
import Occupancy.Json.Value
import Occupancy.Poisson

/-! Descriptors. A hash test run writes next to the counts of each algorithm a JSON object that says how many
items went into how many buckets and where and how the counts are stored. -/

namespace Occupancy

structure Descriptor where
  algorithm : String
  numBuckets : UInt64
  numInputs : UInt64
  /-- Where the counts are, seen from the directory of the descriptor. -/
  countsFile : String
  countsDtype : String
  endianness : Option String
deriving Repr, DecidableEq

namespace Descriptor

/-- The element type of the counts where a descriptor does not name one. -/
def defaultDtype : String := "int32"

def byteOrder (d : Descriptor) : ByteOrder := ByteOrder.ofTag d.endianness

/-- Average number of items per bucket. -/
def rate (d : Descriptor) : Float := Poisson.rate d.numInputs d.numBuckets

/-- Names of a signed integer of 32 bits. Counts are read as such integers whatever the descriptor names. -/
def int32Names : List String := ["int32", "i32", "i4", "<i4", ">i4", "=i4"]

def isInt32 (d : Descriptor) : Bool := int32Names.any (·.toList == Text.tagWord d.countsDtype)

end Descriptor

/-- The keys that a descriptor gives a meaning to. -/
inductive Field
  | algorithm
  | numBuckets
  | numInputs
  | countsFile
  | countsDtype
  | endianness
deriving Repr, DecidableEq

namespace Field

/-- All keys, in the order in which they are written and in which their absence is reported. -/
def all : List Field := [algorithm, numBuckets, numInputs, countsFile, countsDtype, endianness]

def key : Field → String
  | algorithm => "algorithm"
  | numBuckets => "numBuckets"
  | numInputs => "numInputs"
  | countsFile => "countsFile"
  | countsDtype => "countsDtype"
  | endianness => "endianness"

def ofKey? (key : String) : Option Field := all.find? (·.key == key)

theorem ofKey?_key (f : Field) : ofKey? f.key = some f := by cases f <;> decide

end Field

namespace Descriptor

/-- The value of a field as it is written. -/
def fieldValue (d : Descriptor) : Field → Json
  | .algorithm => .string d.algorithm
  | .numBuckets => .integer d.numBuckets.toNat
  | .numInputs => .integer d.numInputs.toNat
  | .countsFile => .string d.countsFile
  | .countsDtype => .string d.countsDtype
  | .endianness => d.endianness.elim .null .string

def toJson (d : Descriptor) : Json := .object (Field.all.map fun field => (field.key, d.fieldValue field))

/-- The written form of a descriptor. -/
def text (d : Descriptor) : String := d.toJson.text

end Descriptor

end Occupancy
