import NonceAllocation.Json.Scanned
import NonceAllocation.Text.Digit

namespace NonceAllocation

/-!
# JSON strings

Between quotation marks a string holds characters and escapes, and no control character.  An escape
names a character by a letter or by four hexadecimal digits; a character beyond `U+FFFF` takes two
such escapes, the halves of a surrogate pair.

* `Escape.write` — a string with its marks: only the mark, the backslash and controls are escaped;
* `Escape.scan` — the string behind an opening mark.

Reading insists that surrogates come in pairs; skipping does not.
-/

namespace Escape

/-! ### Writing -/

/-- The escape of a control character. -/
def control (c : Char) : List Char :=
  if c = '\x08' then ['\\', 'b']
  else if c = '\t' then ['\\', 't']
  else if c = '\n' then ['\\', 'n']
  else if c = '\x0c' then ['\\', 'f']
  else if c = '\r' then ['\\', 'r']
  else ['\\', 'u', '0', '0', Nat.digitChar (c.toNat / 16), Nat.digitChar (c.toNat % 16)]

/-- A character inside a string. -/
def writeChar (c : Char) : List Char :=
  if c = '"' ∨ c = '\\' then ['\\', c]
  else if c < ' ' then control c
  else [c]

/-- A string with its marks. -/
def write (s : String) : List Char := '"' :: s.toList.flatMap writeChar ++ ['"']

/-! ### Scanning -/

/-- What stands for a character, or for half of one, inside a string. -/
inductive Piece where
  | char (c : Char)
  /-- Four hexadecimal digits. -/
  | unit (n : Nat)
deriving DecidableEq

/-- The value of four hexadecimal digits. -/
def hexValue4? (a b c d : Char) : Option Nat := do
  let a ← Digit.value? 16 a
  let b ← Digit.value? 16 b
  let c ← Digit.value? 16 c
  let d ← Digit.value? 16 d
  some (((a * 16 + b) * 16 + c) * 16 + d)

/-- The character that an escape names by a letter. -/
def letter? (c : Char) : Option Char :=
  if c = '"' ∨ c = '\\' ∨ c = '/' then some c
  else if c = 'b' then some '\x08'
  else if c = 'f' then some '\x0c'
  else if c = 'n' then some '\n'
  else if c = 'r' then some '\r'
  else if c = 't' then some '\t'
  else none

/-- What is wrong behind `\u` when there are no four characters: four bytes are looked at. -/
def shortFault (cs : List Char) : Fault :=
  if (String.ofList cs).utf8ByteSize < 4 then .truncated else .malformed

/-- The pieces up to the closing mark, and what follows it. -/
def pieces : List Char → List Piece × Except Fault (List Char)
  | [] => ([], .error .truncated)
  | '"' :: rest => ([], .ok rest)
  | '\\' :: 'u' :: a :: b :: c :: d :: rest =>
    match hexValue4? a b c d with
    | some n =>
      let (ps, e) := pieces rest
      (.unit n :: ps, e)
    | none => ([], .error .malformed)
  | '\\' :: 'u' :: rest => ([], .error (shortFault rest))
  | '\\' :: c :: rest =>
    match letter? c with
    | some c =>
      let (ps, e) := pieces rest
      (.char c :: ps, e)
    | none => ([], .error .malformed)
  | ['\\'] => ([], .error .truncated)
  | c :: rest =>
    if c < ' ' then ([], .error .malformed)
    else
      let (ps, e) := pieces rest
      (.char c :: ps, e)

/-- The characters of pieces: units that are halves of a pair must follow each other.  `fault` is
    what follows the last piece, if that is not the closing mark. -/
def join (fault : Option Fault) : List Piece → Except Fault (List Char)
  | [] => fault.elim (.ok []) .error
  | .char c :: ps => (join fault ps).map (c :: ·)
  | .unit n :: ps =>
    if 0xDC00 ≤ n ∧ n ≤ 0xDFFF then .error .malformed
    else if 0xD800 ≤ n ∧ n ≤ 0xDBFF then
      match ps with
      | .unit m :: ps =>
        if 0xDC00 ≤ m ∧ m ≤ 0xDFFF then
          (join fault ps).map (Char.ofNat (0x10000 + (n - 0xD800) * 0x400 + (m - 0xDC00)) :: ·)
        else .error .malformed
      | .char _ :: _ => .error .malformed
      | [] => .error (fault.getD .malformed)
    else (join fault ps).map (Char.ofNat n :: ·)

/-- The string behind an opening mark, and what follows its closing mark. -/
def scan (cs : List Char) : Scanned String × Option (List Char) :=
  match pieces cs with
  | (ps, .ok rest) => (⟨(join none ps).map String.ofList, .ok ()⟩, some rest)
  | (ps, .error f) => (⟨(join (some f) ps).map String.ofList, .error f⟩, none)

end Escape

end NonceAllocation
