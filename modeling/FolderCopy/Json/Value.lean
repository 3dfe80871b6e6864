import FolderCopy.Json.Numeral

/-!
# JSON values

Values that the library itself writes, and their compact text. An object is a list of members; where
its keys come from outside they are kept in ascending order, each once (`Json.put`).
-/

namespace FolderCopy

/-- A JSON value. Numbers that are no integers are kept as written. -/
inductive Json where
  | null
  | bool (b : Bool)
  | int (n : Int)
  | decimal (n : Json.Numeral)
  | text (s : String)
  | array (items : List Json)
  | object (members : List (String × Json))
  deriving Repr, Inhabited

namespace Json

/-- The members with `key` set to `value`: keys ascend, and an old value of the key is replaced. -/
def put {α : Type} (key : String) (value : α) : List (String × α) → List (String × α)
  | [] => [(key, value)]
  | (k, v) :: rest =>
    if key < k then (key, value) :: (k, v) :: rest
    else if key = k then (key, value) :: rest
    else (k, v) :: put key value rest

/-- The members of a list of pairs, the last pair of a key winning. -/
def ofPairs {α : Type} (ps : List (String × α)) : List (String × α) :=
  ps.foldl (fun ms p => put p.1 p.2 ms) []

/-- How a character is written inside quotes: only quotes, backslashes and controls are escaped. -/
def escape (c : Char) : List Char :=
  if c = '"' then ['\\', '"']
  else if c = '\\' then ['\\', '\\']
  else if c = '\x08' then ['\\', 'b']
  else if c = '\x09' then ['\\', 't']
  else if c = '\x0a' then ['\\', 'n']
  else if c = '\x0c' then ['\\', 'f']
  else if c = '\x0d' then ['\\', 'r']
  else if c.toNat < 0x20 then
    ['\\', 'u', '0', '0', Nat.digitChar (c.toNat / 16), Nat.digitChar (c.toNat % 16)]
  else [c]

/-- A text between quotes. -/
def textChars (s : String) : List Char :=
  '"' :: s.toList.flatMap escape ++ ['"']

mutual

/-- The compact text of a value. -/
def chars : Json → List Char
  | .null => ['n', 'u', 'l', 'l']
  | .bool true => ['t', 'r', 'u', 'e']
  | .bool false => ['f', 'a', 'l', 's', 'e']
  | .int n => (toString n).toList
  | .decimal n => n.chars
  | .text s => textChars s
  | .array [] => ['[', ']']
  | .array (x :: xs) => '[' :: chars x ++ itemChars xs
  | .object [] => ['\x7b', '\x7d']
  | .object ((k, x) :: ms) => '\x7b' :: textChars k ++ ':' :: chars x ++ memberChars ms

/-- The items of an array after the first one, each after a comma, and the closing bracket. -/
def itemChars : List Json → List Char
  | [] => [']']
  | x :: xs => ',' :: chars x ++ itemChars xs

/-- The members of an object after the first one, each after a comma, and the closing brace. -/
def memberChars : List (String × Json) → List Char
  | [] => ['\x7d']
  | (k, x) :: ms => ',' :: textChars k ++ ':' :: chars x ++ memberChars ms

end

/-- The compact text of a value. -/
def render (v : Json) : String :=
  String.ofList v.chars

end Json

end FolderCopy
