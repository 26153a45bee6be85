import NonceAllocation.Json.Scanned
import NonceAllocation.Decimal.Binary64

namespace NonceAllocation

/-!
# JSON numbers

* `Number` — whole numbers of 64 bits stay exact, all others are of the binary64 format;
* `Numeral` — a number's text in its parts;
* `Numeral.scan` — the longest numeral at the start of a text;
* `Numeral.number?` — its value.

Only the leading digits that make up at most `2 ^ 64 - 1` count; further ones before the point
count as zeros, further ones behind it not at all.
-/

/-- The value of a JSON number. -/
inductive Number where
  /-- A number from 0 to `2 ^ 64 - 1`. -/
  | unsigned (n : Nat)
  /-- The number `-n`, from `-2 ^ 63` to -1. -/
  | negative (n : Nat)
  | double (negative : Bool) (magnitude : Binary64)
deriving DecidableEq

/-- A number's text: its sign, the digits before and behind the point, and the exponent. -/
structure Numeral where
  negative : Bool
  whole : List Char
  fraction : Option (List Char)
  exponent : Option (Bool × List Char)
deriving DecidableEq

namespace Numeral

/-- The largest significand that is kept. -/
def maxSignificand : Nat := 2 ^ 64 - 1

/-- The significand of digits, and whether all of them went into it. -/
def significand : Nat → List Char → Nat × List Char
  | n, [] => (n, [])
  | n, c :: cs =>
    let m := n * 10 + (c.toNat - '0'.toNat)
    if m ≤ maxSignificand then significand m cs else (n, c :: cs)

/-- The value of the exponent's digits, which stops growing once it is beyond any use. -/
def exponentValue (ds : List Char) : Nat :=
  ds.foldl (fun e c => if e < 2 ^ 31 then e * 10 + (c.toNat - '0'.toNat) else e) 0

/-- The double of a significand and a power of ten. -/
def double? (negative : Bool) (s : Nat) (e : Int) : Option Number :=
  (Binary64.ofScientific? s e).map (.double negative)

/-- The value of a numeral; `none` if it is too large for a double. -/
def number? (n : Numeral) : Option Number :=
  let (s, left) := significand 0 n.whole
  -- Digits that no longer fit still move the point.
  let shift : Int := left.length
  match n.fraction, n.exponent with
  | none, none =>
    if left ≠ [] then double? n.negative s shift
    else if n.negative then
      -- No whole number is minus zero, or less than the least of 64 bits.
      if 0 < s ∧ s ≤ 2 ^ 63 then some (.negative s) else double? true s 0
    else some (.unsigned s)
  | _, _ =>
    let digits := n.fraction.getD []
    let (s, ignored) := significand s digits
    let shift := shift - (digits.length - ignored.length : Nat)
    let power : Int := match n.exponent with
      | none => 0
      | some (minus, ds) => if minus then -(exponentValue ds : Int) else exponentValue ds
    double? n.negative s (shift + power)

/-! ### Scanning -/

/-- One or more digits and what follows them. -/
def scanDigits (cs : List Char) : Except Fault (List Char × List Char) :=
  match cs.span Char.isDigit with
  | ([], []) => .error .truncated
  | ([], _) => .error .malformed
  | p => .ok p

/-- The digits before the point: one zero, or digits that begin with no zero. -/
def scanWhole (cs : List Char) : Except Fault (List Char × List Char) := do
  match ← scanDigits cs with
  | ('0' :: _ :: _, _) => .error .malformed
  | p => .ok p

/-- A point and digits, if there is a point. -/
def scanFraction : List Char → Except Fault (Option (List Char) × List Char)
  | '.' :: cs => (scanDigits cs).map fun p => (some p.1, p.2)
  | cs => .ok (none, cs)

/-- The exponent's sign: whether it is a minus. -/
def scanSign : List Char → Bool × List Char
  | '+' :: cs => (false, cs)
  | '-' :: cs => (true, cs)
  | cs => (false, cs)

/-- An `e`, a sign and digits, if there is an `e`. -/
def scanExponent (cs : List Char) : Except Fault (Option (Bool × List Char) × List Char) :=
  match cs with
  | c :: cs =>
    if c = 'e' ∨ c = 'E' then
      let (minus, cs) := scanSign cs
      (scanDigits cs).map fun p => (some (minus, p.1), p.2)
    else .ok (none, c :: cs)
  | [] => .ok (none, [])

/-- The numeral at the start of a text, and what follows it. -/
def scan (cs : List Char) : Except Fault (Numeral × List Char) := do
  let (negative, cs) := match cs with
    | '-' :: cs => (true, cs)
    | cs => (false, cs)
  let (whole, cs) ← scanWhole cs
  let (fraction, cs) ← scanFraction cs
  let (exponent, cs) ← scanExponent cs
  .ok (⟨negative, whole, fraction, exponent⟩, cs)

end Numeral

/-- The number at the start of a text, and what follows it.  A number that breaks off is too short
    when it is read and malformed when it is skipped; one that is too large can only be skipped. -/
def Number.scan (cs : List Char) : Scanned Number × Option (List Char) :=
  match Numeral.scan cs with
  | .error f => (⟨.error f, .error .malformed⟩, none)
  | .ok (n, rest) => (⟨n.number?.elim (.error .malformed) .ok, .ok ()⟩, some rest)

end NonceAllocation
