import Occupancy.ByteOrder

/-! Arrays of counts as they are stored: four bytes for each bucket, read as a signed integer. An array is refused
when it ends inside an integer, and else when a count is negative; the first such count is the one reported. -/

namespace Occupancy.Counts

inductive Fault
  | truncated (length : Nat)
  | negative (index : Nat) (value : Int)
deriving Repr, DecidableEq

/-- The words that bytes stand for; up to three bytes may be left over at the end. -/
def words (order : ByteOrder) : List UInt8 → List UInt32
  | a :: b :: c :: d :: rest => order.word a b c d :: words order rest
  | _ => []

def isNegative (word : UInt32) : Bool := 0x80000000 ≤ word.toNat

/-- The signed integer that a word stands for. -/
def signed (word : UInt32) : Int := if isNegative word then (word.toNat : Int) - 0x100000000 else word.toNat

/-- The first negative word with its position. -/
def firstNegative? (ws : List UInt32) : Option (UInt32 × Nat) := ws.zipIdx.find? fun (word, _) => isNegative word

def decode (order : ByteOrder) (bytes : List UInt8) : Except Fault (List UInt32) :=
  if bytes.length % 4 ≠ 0 then .error (.truncated bytes.length)
  else
    let ws := words order bytes
    match firstNegative? ws with
    | some (word, index) => .error (.negative index (signed word))
    | none => .ok ws

/-- The bytes of an array. -/
def encode (order : ByteOrder) (counts : List UInt32) : List UInt8 := counts.flatMap order.bytes

theorem length_words (order : ByteOrder) (bytes : List UInt8) :
    (words order bytes).length = bytes.length / 4 := by
  fun_induction words order bytes with
  | case1 a b c d rest ih => simp only [List.length_cons, ih]; omega
  | case2 bytes h =>
    rcases bytes with _ | ⟨a, _ | ⟨b, _ | ⟨c, _ | ⟨d, rest⟩⟩⟩⟩
    · rfl
    · simp
    · simp
    · simp
    · exact absurd rfl (h a b c d rest)

theorem length_encode (order : ByteOrder) (counts : List UInt32) :
    (encode order counts).length = 4 * counts.length := by
  induction counts with
  | nil => rfl
  | cons word rest ih =>
    have hword := order.length_bytes word
    simp only [encode, List.flatMap_cons, List.length_append, List.length_cons] at ih ⊢
    omega

theorem words_bytes_append (order : ByteOrder) (word : UInt32) (rest : List UInt8) :
    words order (order.bytes word ++ rest) = word :: words order rest := by
  cases order <;> simp [ByteOrder.bytes, words, ByteOrder.word, ByteOrder.compose_byteAt]

theorem words_encode (order : ByteOrder) (counts : List UInt32) : words order (encode order counts) = counts := by
  induction counts with
  | nil => rfl
  | cons word rest ih =>
    rw [encode, List.flatMap_cons, words_bytes_append]
    exact congrArg (word :: ·) ih

end Occupancy.Counts
