import NonceAllocation.Text.Invisible

namespace NonceAllocation

/-!
# Quoted text

A text in quotation marks, as messages show it: what cannot be seen is written by its code point.

* `quoted` — a text between `"`;
* `quotedChar` — one character between apostrophes.

The mark itself and the backslash are escaped by a backslash, four controls have letters, and every
other character without a shape is written with its code point in hexadecimal.
-/

/-- One character inside quotation marks of the given kind. -/
def escapeWithin (mark c : Char) : List Char :=
  if c = '\x00' then ['\\', '0']
  else if c = '\t' then ['\\', 't']
  else if c = '\r' then ['\\', 'r']
  else if c = '\n' then ['\\', 'n']
  else if c = '\\' ∨ c = mark then ['\\', c]
  else if isInvisible c then ['\\', 'u', '\x7b'] ++ Nat.toDigits 16 c.toNat ++ ['\x7d']
  else [c]

/-- The text between double quotation marks. -/
def quoted (s : String) : String :=
  String.ofList ('"' :: s.toList.flatMap (escapeWithin '"') ++ ['"'])

/-- The character between apostrophes. -/
def quotedChar (c : Char) : String :=
  String.ofList ('\x27' :: escapeWithin '\x27' c ++ ['\x27'])

end NonceAllocation
