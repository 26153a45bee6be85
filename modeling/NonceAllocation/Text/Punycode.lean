import NonceAllocation.Unsigned

namespace NonceAllocation

/-!
# Punycode

A text is written in ASCII: first its ASCII characters, then, behind a hyphen, where the others are
inserted and which they are, as numbers in a mixed radix that adapts to how large they are.

* `Punycode.encode` — the ASCII form of a text;
* `Punycode.decode?` — the text of an ASCII form, if it is one.
-/

namespace Punycode

/-- The digits, from a to z and from 0 to 9. -/
def digitChar (d : Nat) : Char := if d < 26 then Char.ofNat (97 + d) else Char.ofNat (22 + d)

def digitValue? (c : Char) : Option Nat :=
  if c.isLower then some (c.toNat - 97)
  else if c.isUpper then some (c.toNat - 65)
  else if c.isDigit then some (c.toNat - 22)
  else none

/-- The digit below which a number ends, at the place `k`. -/
def threshold (k bias : Nat) : Nat :=
  if k ≤ bias then 1 else if bias + 26 ≤ k then 26 else k - bias

theorem threshold_pos (k bias : Nat) : 1 ≤ threshold k bias := by
  unfold threshold
  split
  · exact Nat.le_refl 1
  · split <;> omega

theorem threshold_le (k bias : Nat) : threshold k bias ≤ 26 := by
  unfold threshold
  split
  · omega
  · split <;> omega

/-- Scales a distance down; `k` counts how often. -/
def scaled (distance k : Nat) : Nat :=
  if 455 < distance then scaled (distance / 35) (k + 36) else k + 36 * distance / (distance + 38)
termination_by distance
decreasing_by exact Nat.div_lt_self (by omega) (by omega)

/-- The bias after a distance, with `count` characters placed. -/
def adapt (distance count : Nat) (first : Bool) : Nat :=
  let d := if first then distance / 700 else distance / 2
  scaled (d + d / count) 0

/-- The bias at the start. -/
def initialBias : Nat := 72

/-! ### Encoding -/

/-- The digits of a number, the lowest first. -/
def digits (bias k n : Nat) : List Char :=
  let t := threshold k bias
  if n < t then [digitChar n]
  else digitChar (t + (n - t) % (36 - t)) :: digits bias (k + 36) ((n - t) / (36 - t))
termination_by n
decreasing_by
  have h₁ := threshold_pos k bias
  have h₂ := threshold_le k bias
  calc (n - threshold k bias) / (36 - threshold k bias)
      ≤ n - threshold k bias := Nat.div_le_self _ _
    _ < n := by omega

/-- How far an encoding has come. -/
structure Encoding where
  out : List Char
  distance : Nat
  bias : Nat
  /-- The number of characters placed. -/
  placed : Nat
  first : Bool

/-- Passes a character while those of the code point `m` are placed. -/
def Encoding.pass (m : Nat) (e : Encoding) (c : Char) : Encoding :=
  if c.toNat < m then { e with distance := e.distance + 1 }
  else if c.toNat = m then
    { out := e.out ++ digits e.bias 36 e.distance
      distance := 0
      bias := adapt e.distance (e.placed + 1) e.first
      placed := e.placed + 1
      first := false }
  else e

/-- Places the code points `ms`, in order, the next one to be tried being `n`. -/
def Encoding.place (text : List Char) (e : Encoding) (n : Nat) : List Nat → Encoding
  | [] => e
  | m :: ms =>
    -- Every code point that is skipped could have gone to any of the places so far.
    let e := { e with distance := e.distance + (m - n) * (e.placed + 1) }
    let e := text.foldl (pass m) e
    place text { e with distance := e.distance + 1 } (m + 1) ms

/-- The ASCII form of a text. -/
def encode (text : List Char) : List Char :=
  let basic := text.filter fun c => decide (c.toNat < 128)
  let others := (text.map Char.toNat).filter fun n => decide (128 ≤ n)
  let ms := (others.mergeSort fun a b => decide (a ≤ b)).eraseDups
  let start : Encoding := ⟨[], 0, initialBias, basic.length, true⟩
  basic ++ (if basic.isEmpty then [] else ['-']) ++ (start.place text 128 ms).out

/-! ### Decoding -/

/-- How far a decoding has come: the text, the code point and the place of the next insertion, and
    the number being read, with the weight and the place of its next digit. -/
structure Decoding where
  out : List Char
  point : Nat
  place : Nat
  bias : Nat
  number : Nat
  weight : Nat
  k : Nat

/-- A character of a code point, if there is one. -/
def char? (n : Nat) : Option Char :=
  if h : n.isValidChar then some ⟨n.toUInt32, by
    rw [UInt32.isValidChar, Nat.toUInt32, UInt32.toNat_ofNat']
    rcases h with h | ⟨h₁, h₂⟩
    · exact .inl (by omega)
    · exact .inr ⟨by omega, by omega⟩⟩
  else none

/-- Inserts the character of the number that has been read. -/
def Decoding.insert? (d : Decoding) : Option Decoding := do
  let count := d.out.length + 1
  let i := d.place + d.number
  let point := d.point + i / count
  let c ← char? point
  let place := i % count
  some {
    out := d.out.take place ++ c :: d.out.drop place
    point
    place := place + 1
    bias := adapt d.number count (d.place == 0)
    number := 0
    weight := 1
    k := 36 }

/-- The largest number that is read. -/
def maxNumber : Nat := 2 ^ 32 - 1

/-- Reads digits. -/
def Decoding.read? (d : Decoding) : List Char → Option (List Char)
  | [] => if d.k = 36 then some d.out else none
  | c :: cs => do
    let v ← digitValue? c
    let number := d.number + v * d.weight
    if maxNumber < d.place + number then none
    let t := threshold d.k d.bias
    let next : Decoding := { d with number }
    if v < t then (← next.insert?).read? cs
    else read? { next with weight := d.weight * (36 - t), k := d.k + 36 } cs

/-- The text in front of the last hyphen and the digits behind it. -/
def split (cs : List Char) : List Char × List Char :=
  let back := cs.reverse.takeWhile (· != '-')
  let front := cs.take (cs.length - back.length - 1)
  if front.isEmpty then ([], cs) else (front, back.reverse)

/-- The text of an ASCII form. -/
def decode? (cs : List Char) : Option (List Char) :=
  let (basic, rest) := split cs
  Decoding.read? ⟨basic, 128, 0, initialBias, 0, 1, 36⟩ rest

end Punycode

end NonceAllocation
