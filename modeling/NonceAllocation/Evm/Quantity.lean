import NonceAllocation.Json.Decode
import NonceAllocation.Json.Value
import NonceAllocation.Text.Digit

namespace NonceAllocation

/-!
# Quantities of EVM nodes

A number of a fixed width is written in hexadecimal behind `0x`.  It is read in four radices, each
with its marker, decimal being the one without; underscores are passed over wherever they stand, and
a text without digits is zero.

* `Quantity.text`, `Quantity.json` — writing;
* `Quantity.read?`, `Quantity.decode` — reading, from a text or from a whole JSON number.
-/

namespace Quantity

variable {bits : Nat}

/-- Hexadecimal digits without leading zeros, behind `0x`. -/
def text (n : Unsigned bits) : String :=
  String.ofList ('0' :: 'x' :: Nat.toDigits 16 n.val)

def json (n : Unsigned bits) : Json := .string (text n)

/-- The value of digits behind those of `n`, underscores passed over. -/
def digits? (radix n : Nat) : List Char → Option Nat
  | [] => some n
  | c :: cs =>
    if c = '_' then digits? radix n cs
    else
      match Digit.value? radix c with
      | some d => digits? radix (n * radix + d) cs
      | none => none

/-- The radix that a text's marker names, and the digits. -/
def radix : List Char → Nat × List Char
  | '0' :: c :: cs =>
    if c = 'x' ∨ c = 'X' then (16, cs)
    else if c = 'o' ∨ c = 'O' then (8, cs)
    else if c = 'b' ∨ c = 'B' then (2, cs)
    else (10, '0' :: c :: cs)
  | cs => (10, cs)

/-- The number of a text, if it is one and fits the width. -/
def read? (bits : Nat) (s : String) : Option (Unsigned bits) :=
  let (r, cs) := radix s.toList
  (digits? r 0 cs).bind (Unsigned.ofNat? bits)

/-- The description of a quantity. -/
def expected (bits : Nat) : String := "a " ++ toString (bits / 8) ++ " byte hex string"

/-- A whole number, or the text of one. -/
def decode (bits : Nat) : Decoder (Unsigned bits)
  | .number n => do
    let n ← checked n.read
    match n with
    | .unsigned m =>
      match Unsigned.ofNat? bits m with
      | some m => .ok m
      | none => .error (.invalidValue (.number n) (expected bits))
    | _ => .error (.invalidType (.number n) (expected bits))
  | .string s => do
    let s ← checked s.read
    match read? bits s with
    | some n => .ok n
    | none => .error (.invalidValue (.string s) (expected bits))
  | d => .error (d.mismatch (expected bits))

end Quantity

end NonceAllocation
