import BearerGate.Dict
import BearerGate.Json.Number

/-!
# JSON values

JSON values and their compact text.

A value is free of the accidents of its text: strings are decoded and numbers are read. The
members of an object stand in the order in which they are written; `Json.ofDict` gives them in
increasing order of name.
-/

namespace BearerGate

/-- A JSON value. -/
inductive Json
  | null
  | bool (value : Bool)
  | number (value : Json.Number)
  | string (value : String)
  | array (items : List Json)
  | object (members : List (String × Json))

namespace Json

/-- The integer as a value. -/
def int (n : Int) : Json := .number (.integer n)

/-- The object that maps the names of a dictionary. -/
def ofDict (dict : Dict Json) : Json := .object dict.entries

/-- A character inside a string. -/
def escapeChar (c : Char) : List Char :=
  if c = '"' then ['\\', '"']
  else if c = '\\' then ['\\', '\\']
  else if c.toNat < 0x20 then
    match c.toNat with
    | 8 => ['\\', 'b']
    | 9 => ['\\', 't']
    | 10 => ['\\', 'n']
    | 12 => ['\\', 'f']
    | 13 => ['\\', 'r']
    | n => ['\\', 'u', '0', '0', Nat.digitChar (n / 16), Nat.digitChar (n % 16)]
  else [c]

/-- A string in quotation marks. -/
def stringChars (s : String) : List Char :=
  '"' :: s.toList.flatMap escapeChar ++ ['"']

mutual

/-- The compact text of a value, without blanks. -/
def chars : Json → List Char
  | .null => ['n', 'u', 'l', 'l']
  | .bool true => ['t', 'r', 'u', 'e']
  | .bool false => ['f', 'a', 'l', 's', 'e']
  | .number n => n.chars
  | .string s => stringChars s
  | .array [] => ['[', ']']
  | .array (item :: items) => '[' :: item.chars ++ itemsChars items
  | .object [] => ['\x7b', '\x7d']
  | .object ((name, value) :: members) =>
    '\x7b' :: stringChars name ++ ':' :: value.chars ++ membersChars members

/-- The items behind the first, each after a comma, and the closing bracket. -/
def itemsChars : List Json → List Char
  | [] => [']']
  | item :: items => ',' :: item.chars ++ itemsChars items

/-- The members behind the first, each after a comma, and the closing brace. -/
def membersChars : List (String × Json) → List Char
  | [] => ['\x7d']
  | (name, value) :: members =>
    ',' :: stringChars name ++ ':' :: value.chars ++ membersChars members

end

/-- The compact text of a value. -/
def text (value : Json) : String :=
  String.ofList value.chars

end Json

end BearerGate
