import NonceAllocation.Text.Digit

namespace NonceAllocation

/-!
# Percent-encoding

A character that must not stand in a part of a URL is written as its UTF-8 bytes, each by a percent
sign and two upper-case hexadecimal digits.  Controls and characters beyond ASCII are always
written so; which others are depends on the part.

* `Percent.encode` — a text, over the characters that the part excludes;
* `Percent.decode` — the bytes of a text, escapes replaced by what they stand for.
-/

namespace Percent

/-! ### What each part excludes -/

def inFragment (c : Char) : Bool := " \"<>\x60".contains c

def inQuery (c : Char) : Bool := " \"#<>".contains c

/-- The query of a URL whose scheme is special. -/
def inSpecialQuery (c : Char) : Bool := inQuery c || c == '\''

def inPath (c : Char) : Bool := inFragment c || "#?\x7b\x7d".contains c

def inCredentials (c : Char) : Bool := inPath c || "/:;=@[\\]^|".contains c

/-- Parts in which only controls and characters beyond ASCII are written otherwise. -/
def nowhere (_ : Char) : Bool := false

/-! ### Encoding and decoding -/

def isControl (c : Char) : Bool := decide (c < ' ') || c == '\x7f'

/-- An upper-case hexadecimal digit. -/
def digit (n : Nat) : Char := (Nat.digitChar n).toUpper

def encodeByte (b : UInt8) : List Char := ['%', digit (b.toNat / 16), digit (b.toNat % 16)]

def encodeChar (excluded : Char → Bool) (c : Char) : List Char :=
  if isControl c || decide (127 < c.toNat) || excluded c then
    (String.utf8EncodeChar c).flatMap encodeByte
  else [c]

def encode (excluded : Char → Bool) (cs : List Char) : List Char :=
  cs.flatMap (encodeChar excluded)

/-- The bytes of a text; a percent sign without two digits behind it stands for itself. -/
def decode : List Char → List UInt8
  | '%' :: a :: b :: cs =>
    match Digit.value? 16 a, Digit.value? 16 b with
    | some x, some y => UInt8.ofNat (x * 16 + y) :: decode cs
    | _, _ => 37 :: decode (a :: b :: cs)
  | c :: cs => String.utf8EncodeChar c ++ decode cs
  | [] => []

end Percent

end NonceAllocation
