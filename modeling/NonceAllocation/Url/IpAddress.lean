import NonceAllocation.Text.Digit
import NonceAllocation.Text.Split
import NonceAllocation.Unsigned

namespace NonceAllocation

/-!
# Internet addresses as hosts

* `Ipv4.endsInNumber`, `Ipv4.read?` — up to four numbers between points, decimal, octal behind `0`
  or hexadecimal behind `0x`; the last one fills the bytes that are left;
* `Ipv6.read?` — eight pieces between colons, a run of zeros left out at most once, the last two
  pieces possibly as four decimal bytes;
* `Ipv4.text`, `Ipv6.text` — the normal forms.
-/

/-! ### Four bytes -/

namespace Ipv4

/-- What a part between points is. -/
inductive Part where
  | number (n : Nat)
  | tooLarge
  | other

/-- The number of digits in a radix; no digits are zero. -/
def ofDigits (radix : Nat) (cs : List Char) : Part :=
  match cs.mapM (Digit.value? radix) with
  | none => .other
  | some ds =>
    let n := ds.foldl (fun n d => n * radix + d) 0
    if n < 2 ^ 32 then .number n else .tooLarge

def part : List Char → Part
  | [] => .other
  | ['0'] => .number 0
  | '0' :: c :: cs =>
    if c = 'x' ∨ c = 'X' then ofDigits 16 cs
    else ofDigits 8 (c :: cs)
  | cs => ofDigits 10 cs

/-- The parts between points. -/
def parts (cs : List Char) : List (List Char) := splitAll (· == '.') cs

/-- The parts without an empty one at the end. -/
def trimmed (cs : List Char) : List (List Char) :=
  let ps := parts cs
  if ps.getLast? = some [] then ps.dropLast else ps

/-- Whether the last part is a number, so that the whole has to be an address. -/
def endsInNumber (cs : List Char) : Bool :=
  match (trimmed cs).getLast? with
  | none => false
  | some p =>
    (!p.isEmpty && p.all Char.isDigit) ||
      match part p with
      | .other => false
      | _ => true

/-- The numbers of all parts, if all are numbers. -/
def numbers : List (List Char) → Option (List Nat)
  | [] => some []
  | p :: ps =>
    match part p with
    | .number n => (numbers ps).map (n :: ·)
    | _ => none

/-- The value of the address. -/
def read? (cs : List Char) : Option Nat := do
  let ns ← numbers (trimmed cs)
  if 4 < ns.length then none
  let last ← ns.getLast?
  let first := ns.dropLast
  if 256 ^ (4 - first.length) ≤ last ∨ first.any (fun n => decide (255 < n)) then none
  some (first.foldl (fun a n => a * 256 + n) 0 * 256 ^ (4 - first.length) + last)

def text (n : Nat) : String :=
  ".".intercalate ([n / 2 ^ 24, n / 2 ^ 16 % 256, n / 2 ^ 8 % 256, n % 256].map toString)

end Ipv4

/-! ### Eight pieces -/

namespace Ipv6

/-- Up to `limit` hexadecimal digits: their number and value, and what follows them. -/
def scanPiece : (limit : Nat) → (count value : Nat) → List Char → Nat × Nat × List Char
  | 0, count, value, cs => (count, value, cs)
  | limit + 1, count, value, c :: cs =>
    match Digit.value? 16 c with
    | some d => scanPiece limit (count + 1) (value * 16 + d) cs
    | none => (count, value, c :: cs)
  | _ + 1, count, value, [] => (count, value, [])

/-- A byte without leading zeros. -/
def decimalByte? (cs : List Char) : Option Nat :=
  match cs with
  | [] => none
  | ['0'] => some 0
  | '0' :: _ => none
  | cs =>
    if cs.all Char.isDigit then
      let n := Nat.ofDigitChars 10 cs 0
      if n < 256 then some n else none
    else none

/-- The two pieces that four decimal bytes make. -/
def decimalPieces? (cs : List Char) : Option (List Nat) := do
  match ← (Ipv4.parts cs).mapM decimalByte? with
  | [a, b, c, d] => some [a * 256 + b, c * 256 + d]
  | _ => none

/-- The pieces in front of the zeros left out, if any are, and those behind them. -/
structure Pieces where
  front : List Nat
  gap : Bool
  back : List Nat

namespace Pieces

/-- The number of pieces, the gap counted as one. -/
def size (p : Pieces) : Nat := p.front.length + p.back.length + if p.gap then 1 else 0

def add (p : Pieces) (ns : List Nat) : Pieces :=
  if p.gap then { p with back := p.back ++ ns } else { p with front := p.front ++ ns }

/-- All eight pieces. -/
def all? (p : Pieces) : Option (List Nat) :=
  if p.gap then
    some (p.front ++ List.replicate (8 - p.front.length - p.back.length) 0 ++ p.back)
  else if p.front.length = 8 then some p.front
  else none

end Pieces

/-- The pieces of a text behind those of `p`; every step takes a character at least. -/
def pieces? : (fuel : Nat) → Pieces → List Char → Option Pieces
  | _, p, [] => some p
  | 0, _, _ => none
  | fuel + 1, p, cs =>
    if 8 ≤ p.size then none
    else
      match cs with
      | ':' :: rest => if p.gap then none else pieces? fuel { p with gap := true } rest
      | cs =>
        let (count, value, rest) := scanPiece 4 0 0 cs
        match rest with
        | [] => some (p.add [value])
        | '.' :: _ =>
          -- The four bytes fill two of the eight places.
          if count = 0 ∨ 6 < p.size then none else (decimalPieces? cs).map p.add
        | ':' :: rest => if rest.isEmpty then none else pieces? fuel (p.add [value]) rest
        | _ => none

/-- The eight pieces of an address. -/
def read? (cs : List Char) : Option (List Nat) :=
  let start : Pieces := ⟨[], false, []⟩
  let found := match cs with
    | [] | [_] => none
    | ':' :: ':' :: rest => pieces? rest.length { start with gap := true } rest
    | ':' :: _ => none
    | cs => pieces? cs.length start cs
  found.bind Pieces.all?

/-- The length of the run of zeros at the start. -/
def zeros (ns : List Nat) : Nat := (ns.takeWhile (· == 0)).length

/-- The place and the length of the first of the longest runs of zeros. -/
def longestRun (ns : List Nat) : Nat × Nat :=
  (List.range ns.length).foldl
    (fun best i =>
      let n := zeros (ns.drop i)
      if best.2 < n then (i, n) else best)
    (0, 0)

def pieceText (n : Nat) : String := String.ofList (Nat.toDigits 16 n)

/-- The pieces between colons; the first of the longest runs of two or more zeros is left out. -/
def text (ns : List Nat) : String :=
  let (place, n) := longestRun ns
  let join := fun ns => ":".intercalate (ns.map pieceText)
  if n < 2 then join ns else join (ns.take place) ++ "::" ++ join (ns.drop (place + n))

end Ipv6

end NonceAllocation
