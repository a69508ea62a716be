import Bookkeeping.Decimal

namespace Bookkeeping

inductive Json
  | null
  | bool (b : Bool)
  | int (n : Int)
  | text (s : String)
  | list (items : List Json)
  | object (fields : List (String × Json))
  deriving Repr

namespace Json

instance : Inhabited Json := ⟨.null⟩

def ofText? : Option String → Json
  | none => .null
  | some s => .text s

def hexDigit (n : Nat) : Char := if n < 10 then Char.ofNat (48 + n) else Char.ofNat (87 + n)

def escape (c : Char) : List Char :=
  match c with
  | '\x22' => ['\\', '\x22']
  | '\\' => ['\\', '\\']
  | '\n' => ['\\', 'n']
  | '\r' => ['\\', 'r']
  | '\t' => ['\\', 't']
  | '\x08' => ['\\', 'b']
  | '\x0c' => ['\\', 'f']
  | c =>
    if c.toNat < 32 then ['\\', 'u', '0', '0', hexDigit (c.toNat / 16), hexDigit (c.toNat % 16)]
    else [c]

def quoted (s : String) : List Char := '\x22' :: s.toList.flatMap escape ++ ['\x22']

def writtenInt (n : Int) : List Char :=
  (if n < 0 then ['-'] else []) ++ Decimal.digits n.natAbs

def lineBreak (depth : Nat) : List Char := '\n' :: List.replicate (2 * depth) ' '

mutual

def written (depth : Nat) : Json → List Char
  | .null => "null".toList
  | .bool true => "true".toList
  | .bool false => "false".toList
  | .int n => writtenInt n
  | .text s => quoted s
  | .list [] => "[]".toList
  | .list (item :: items) =>
    '[' :: lineBreak (depth + 1) ++ written (depth + 1) item ++ writtenItems (depth + 1) items
      ++ lineBreak depth ++ [']']
  | .object [] => "\x7b\x7d".toList
  | .object ((name, value) :: fields) =>
    '\x7b' :: lineBreak (depth + 1) ++ quoted name ++ ": ".toList ++ written (depth + 1) value
      ++ writtenFields (depth + 1) fields ++ lineBreak depth ++ ['\x7d']

def writtenItems (depth : Nat) : List Json → List Char
  | [] => []
  | item :: items => ',' :: lineBreak depth ++ written depth item ++ writtenItems depth items

def writtenFields (depth : Nat) : List (String × Json) → List Char
  | [] => []
  | (name, value) :: fields =>
    ',' :: lineBreak depth ++ quoted name ++ ": ".toList ++ written depth value
      ++ writtenFields depth fields

end

def pretty (j : Json) : String := String.ofList (j.written 0)

end Json

end Bookkeeping
