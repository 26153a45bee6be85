import NonceAllocation.Unsigned

namespace NonceAllocation

/-!
# Numbers of the binary64 format

Finite non-negative numbers of 53 significant binary digits, in exact arithmetic.

* `Binary64.round` — the nearest such number to a quotient, ties to the even mantissa;
* `Binary64.mul`, `Binary64.div` — rounded products and quotients;
* `Binary64.ofScientific?` — `s * 10 ^ e`, as one product or quotient with a rounded power of ten.
-/

/-- The number `mantissa * 2 ^ exponent`, with `mantissa < 2 ^ 53` and `-1074 ≤ exponent ≤ 971`. -/
structure Binary64 where
  mantissa : Nat
  exponent : Int
deriving DecidableEq

namespace Binary64

/-- The smallest exponent. -/
def minExponent : Int := -1074

/-- The largest exponent. -/
def maxExponent : Int := 971

def zero : Binary64 := ⟨0, minExponent⟩

def isZero (x : Binary64) : Bool := x.mantissa == 0

/-- The number as a numerator and a denominator. -/
def ratio (x : Binary64) : Nat × Nat :=
  (x.mantissa * 2 ^ x.exponent.toNat, 2 ^ (-x.exponent).toNat)

/-- The quotient nearest to `n / d`, ties to the even one. -/
def halfEven (n d : Nat) : Nat :=
  let q := n / d
  let r := n % d
  if 2 * r < d then q else if d < 2 * r then q + 1 else if q % 2 = 0 then q else q + 1

/-- Numerator and denominator of `n / d / 2 ^ e`. -/
def scaled (n d : Nat) (e : Int) : Nat × Nat := (n * 2 ^ (-e).toNat, d * 2 ^ e.toNat)

/-- The number nearest to `n / d`; `none` if it is too large. -/
def round (n d : Nat) : Option Binary64 :=
  if n = 0 then some zero
  else
    let low : Int := (n.log2 : Int) - d.log2 - 53
    let s := scaled n d low
    let e := max (if s.1 / s.2 < 2 ^ 53 then low else low + 1) minExponent
    let s := scaled n d e
    let m := halfEven s.1 s.2
    let x : Binary64 := if m = 2 ^ 53 then ⟨2 ^ 52, e + 1⟩ else ⟨m, e⟩
    if x.exponent ≤ maxExponent then some x else none

def mul (x y : Binary64) : Option Binary64 :=
  round (x.ratio.1 * y.ratio.1) (x.ratio.2 * y.ratio.2)

def div (x y : Binary64) : Option Binary64 :=
  round (x.ratio.1 * y.ratio.2) (x.ratio.2 * y.ratio.1)

/-- The largest power of ten that is used as a factor. -/
def maxPower : Nat := 308

/-- The number nearest to `10 ^ k`. -/
def power (k : Nat) : Option Binary64 := round (10 ^ k) 1

/-- The number after `count` quotients by `p`; zero stays zero. -/
def divTimes (p : Binary64) : Nat → Binary64 → Option Binary64
  | 0, x => some x
  | count + 1, x => if x.isZero then some x else (x.div p).bind (divTimes p count)

/-- `x * 10 ^ e` by one product, or by one quotient after as many quotients by the largest power as
    it takes; `none` if it is too large. -/
def shift (x : Binary64) (e : Int) : Option Binary64 :=
  if 0 ≤ e then
    if e ≤ maxPower then (power e.toNat).bind x.mul else if x.isZero then some x else none
  else
    let count := (e.natAbs - 1) / maxPower
    (power maxPower).bind fun p => (divTimes p count x).bind fun y =>
      (power (e.natAbs - count * maxPower)).bind y.div

/-- The reading of `s * 10 ^ e`; `none` if it is too large. -/
def ofScientific? (s : Nat) (e : Int) : Option Binary64 := (round s 1).bind (·.shift e)

end Binary64

end NonceAllocation
