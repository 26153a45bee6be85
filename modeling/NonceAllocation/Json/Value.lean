import NonceAllocation.Json.Escape

namespace NonceAllocation

/-!
# JSON values as they are written

* `Json` — a value to be written;
* `Json.text` — its text: no blanks, members in the order given.
-/

/-- A JSON value, its members in the order in which they are written. -/
inductive Json where
  | bool (b : Bool)
  | number (n : Int)
  | string (s : String)
  | array (items : List Json)
  | object (members : List (String × Json))

namespace Json

/-- A whole number in decimal digits. -/
def writeNumber (n : Int) : List Char :=
  if n < 0 then '-' :: Nat.toDigits 10 n.natAbs else Nat.toDigits 10 n.natAbs

/-- Texts with commas between them. -/
def separated : List (List Char) → List Char
  | [] => []
  | [cs] => cs
  | cs :: rest => cs ++ ',' :: separated rest

mutual

/-- A value's text. -/
def write : Json → List Char
  | .bool b => if b then ['t', 'r', 'u', 'e'] else ['f', 'a', 'l', 's', 'e']
  | .number n => writeNumber n
  | .string s => Escape.write s
  | .array items => '[' :: separated (writeItems items) ++ [']']
  | .object members => '\x7b' :: separated (writeMembers members) ++ ['\x7d']

/-- The texts of items. -/
def writeItems : List Json → List (List Char)
  | [] => []
  | j :: js => write j :: writeItems js

/-- The texts of members. -/
def writeMembers : List (String × Json) → List (List Char)
  | [] => []
  | (key, j) :: ms => (Escape.write key ++ ':' :: write j) :: writeMembers ms

end

/-- A value's text. -/
def text (j : Json) : String := String.ofList j.write

/-- An object of the members that are there. -/
def ofMembers (members : List (Option (String × Json))) : Json := .object (members.filterMap id)

end Json

end NonceAllocation
