import Occupancy.Descriptor
import Occupancy.Json.Typed

/-! Reading a descriptor. It may be an object, its members in any order and mixed with members of other keys, or a
list with the values of the fields in their order. Each field is given at most once; only the element type and the
byte order may be left out. -/

namespace Occupancy.Descriptor

open Json Ascii

/-- What has been read of a descriptor. -/
structure Draft where
  algorithm : Option String := none
  numBuckets : Option UInt64 := none
  numInputs : Option UInt64 := none
  countsFile : Option String := none
  countsDtype : Option String := none
  endianness : Option (Option String) := none

namespace Draft

def has (draft : Draft) : Field → Bool
  | .algorithm => draft.algorithm.isSome
  | .numBuckets => draft.numBuckets.isSome
  | .numInputs => draft.numInputs.isSome
  | .countsFile => draft.countsFile.isSome
  | .countsDtype => draft.countsDtype.isSome
  | .endianness => draft.endianness.isSome

/-- Reads the value of a field into the draft. -/
def read (draft : Draft) (field : Field) (s : List UInt8) : Outcome (Draft × List UInt8) :=
  match field with
  | .algorithm => do
    let (text, rest) ← readString s
    .ok ({ draft with algorithm := some text }, rest)
  | .numBuckets => do
    let (n, rest) ← readNatural s
    .ok ({ draft with numBuckets := some n }, rest)
  | .numInputs => do
    let (n, rest) ← readNatural s
    .ok ({ draft with numInputs := some n }, rest)
  | .countsFile => do
    let (text, rest) ← readString s
    .ok ({ draft with countsFile := some text }, rest)
  | .countsDtype => do
    let (text, rest) ← readString s
    .ok ({ draft with countsDtype := some text }, rest)
  | .endianness => do
    let (text, rest) ← readOptionalString s
    .ok ({ draft with endianness := some text }, rest)

def require {α : Type} (field : Field) (value : Option α) (unread : List UInt8) : Outcome α :=
  match value with
  | some value => .ok value
  | none => fail (.missingKey field.key) unread

/-- The descriptor, if no field is missing that has to be given. -/
def finish (draft : Draft) (unread : List UInt8) : Outcome Descriptor := do
  let algorithm ← require .algorithm draft.algorithm unread
  let numBuckets ← require .numBuckets draft.numBuckets unread
  let numInputs ← require .numInputs draft.numInputs unread
  let countsFile ← require .countsFile draft.countsFile unread
  .ok { algorithm, numBuckets, numInputs, countsFile,
        countsDtype := draft.countsDtype.getD defaultDtype
        endianness := draft.endianness.join }

end Draft

/-- Steps to the opening quote of the next key, and behind it; at the closing brace there is none. -/
def nextKey (first : Bool) (s : List UInt8) : Outcome (Option (List UInt8)) :=
  match skipBlanks s with
  | [] => fail .endInObject []
  | b :: rest =>
    if b = closeBrace then .ok none
    else if first then (if b = quoteMark then .ok (some rest) else fail .keyExpected rest)
    else if b = comma then
      match skipBlanks rest with
      | [] => fail .endInValue []
      | c :: rest =>
        if c = quoteMark then .ok (some rest)
        else if c = closeBrace then fail .trailingComma rest
        else fail .keyExpected rest
    else fail .objectCommaExpected rest

/-- Reads a member behind the opening quote of its key. -/
def member (draft : Draft) (s : List UInt8) : Outcome (Draft × List UInt8) := do
  let (key, rest) ← quoted s
  match Field.ofKey? key with
  | some field =>
    if draft.has field then fail (.repeatedKey key) ((skipBlanks rest).drop 1)
    else do
      let rest ← Json.colon rest
      draft.read field rest
  | none => do
    let rest ← Json.colon rest
    let rest ← passValue rest
    .ok (draft, rest)

/-- Reads members up to the closing brace and takes it. Every member takes a byte, so fuel of the number of bytes
is never used up. -/
def members : Nat → Bool → Draft → List UInt8 → Outcome (Draft × List UInt8)
  | 0, _, _, _ => fail .endInObject []
  | fuel + 1, first, draft, s => do
    match ← nextKey first s with
    | none => .ok (draft, (skipBlanks s).drop 1)
    | some rest =>
      let (draft, rest) ← member draft rest
      members fuel false draft rest

/-- Reads the object form behind its brace. -/
def readObject (s : List UInt8) : Outcome (Descriptor × List UInt8) := do
  let (draft, rest) ← members (s.length + 1) true {} s
  let d ← draft.finish rest
  .ok (d, rest)

/-- Steps to the next item of a list; at the closing bracket there is none. -/
def nextItem (first : Bool) (s : List UInt8) : Outcome (Option (List UInt8)) :=
  match skipBlanks s with
  | [] => fail .endInList []
  | b :: rest =>
    if b = closeBracket then .ok none
    else if first then .ok (some (b :: rest))
    else if b = comma then
      match skipBlanks rest with
      | [] => fail .endInValue []
      | c :: rest => if c = closeBracket then fail .trailingComma rest else .ok (some (c :: rest))
    else fail .listCommaExpected rest

/-- Reads the items for the given fields; where the list ends, the fields that are left stay without a value. -/
def items : Bool → Nat → Draft → List Field → List UInt8 → Outcome (Draft × List UInt8)
  | _, _, draft, [], s => .ok (draft, s)
  | first, count, draft, field :: fields, s => do
    match ← nextItem first s with
    | some rest =>
      let (draft, rest) ← draft.read field rest
      items false (count + 1) draft fields rest
    | none =>
      if count < 4 then fail (.wrongLength count "struct AlgorithmMeta with 6 elements") ((skipBlanks s).drop 1)
      else .ok (draft, s)

/-- Takes the closing bracket of the list form. -/
def endList (s : List UInt8) : Outcome (List UInt8) :=
  match skipBlanks s with
  | [] => fail .endInList []
  | b :: rest =>
    if b = closeBracket then .ok rest
    else if b = comma then
      match skipBlanks rest with
      | [] => fail .trailingText []
      | c :: rest => fail (if c = closeBracket then .trailingComma else .trailingText) rest
    else fail .trailingText rest

/-- Reads the list form behind its bracket. -/
def readList (s : List UInt8) : Outcome (Descriptor × List UInt8) := do
  let (draft, rest) ← items true 0 {} Field.all s
  let rest ← endList rest
  let d ← draft.finish rest
  .ok (d, rest)

/-- Reads a whole text. -/
def readText (s : List UInt8) : Outcome Descriptor :=
  match skipBlanks s with
  | [] => fail .endInValue []
  | b :: rest => do
    let (d, rest) ←
      if b = openBracket then readList rest
      else if b = openBrace then readObject rest
      else misplaced "struct AlgorithmMeta" (b :: rest)
    match skipBlanks rest with
    | [] => .ok d
    | _ :: unread => fail .trailingText unread

/-- The descriptor that a text stands for, or the first fault of the text. -/
def read (source : List UInt8) : Except SyntaxError Descriptor := (readText source).mapError (·.locate source)

end Occupancy.Descriptor
