/-! JSON values and their compact text: no blanks, members in the order they are given, and in a string only the
quote, the backslash and the control characters below the space escaped. -/

namespace Occupancy

inductive Json
  | null
  | boolean (value : Bool)
  | integer (value : Int)
  | string (value : String)
  | list (items : List Json)
  | object (members : List (String × Json))

namespace Json

/-- Four hexadecimal digits of a control character. -/
def controlDigits (c : Char) : List Char :=
  ['0', '0', Nat.digitChar (c.toNat / 16), Nat.digitChar (c.toNat % 16)]

def escapeChar (c : Char) : List Char :=
  match c with
  | '"' => ['\\', '"']
  | '\\' => ['\\', '\\']
  | '\x08' => ['\\', 'b']
  | '\t' => ['\\', 't']
  | '\n' => ['\\', 'n']
  | '\x0c' => ['\\', 'f']
  | '\r' => ['\\', 'r']
  | c => if c.toNat < 32 then '\\' :: 'u' :: controlDigits c else [c]

def stringText (s : String) : String := String.ofList ('"' :: (s.toList.flatMap escapeChar ++ ['"']))

mutual

def text : Json → String
  | null => "null"
  | boolean true => "true"
  | boolean false => "false"
  | integer n => toString n
  | string s => stringText s
  | list items => "[" ++ itemsText items ++ "]"
  | object members => "\x7b" ++ membersText members ++ "\x7d"

def itemsText : List Json → String
  | [] => ""
  | [item] => text item
  | item :: items => text item ++ "," ++ itemsText items

def membersText : List (String × Json) → String
  | [] => ""
  | [(key, value)] => stringText key ++ ":" ++ text value
  | (key, value) :: members => stringText key ++ ":" ++ text value ++ "," ++ membersText members

end

end Json

end Occupancy
