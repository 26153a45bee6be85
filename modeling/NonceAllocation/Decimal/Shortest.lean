import NonceAllocation.Decimal.Binary64

namespace NonceAllocation

/-!
# The fewest digits that read back

A decimal stands for a binary64 number if it lies closer to it than to any other, the ends of that
interval counting when the mantissa is even.

* `Binary64.shortest` — the digits of the shortest such decimal, of those the nearest one;
* `Binary64.text` — its text: positional from 10⁻⁵ up to 10¹⁶, else with an exponent.
-/

namespace Binary64

/-- The number of decimal digits of `n`. -/
def digitCount (n : Nat) : Nat := (Nat.toDigits 10 n).length

/-- The power of ten just above `n / d`: the least `p` with `n / d < 10 ^ p`. -/
def magnitude (n d : Nat) : Int :=
  if d ≤ n then digitCount (n / d)
  else
    let k := digitCount (d / n)
    if d ≤ n * 10 ^ (k - 1) then 2 - (k : Int) else 1 - (k : Int)

/-- A decimal `digits * 10 ^ exponent`. -/
structure Decimal where
  digits : Nat
  exponent : Int

/-- The interval of the numbers that round to `x`, in quarters of its unit: below, itself, above. -/
def quarters (x : Binary64) : Nat × Nat × Nat :=
  let below := if x.mantissa = 2 ^ 52 ∧ minExponent < x.exponent then 1 else 2
  (4 * x.mantissa - below, 4 * x.mantissa, 4 * x.mantissa + 2)

/-- The decimal of at most `count` digits that stands for `x`, if there is one. -/
def onGrid (x : Binary64) (p : Int) (count : Nat) : Option Decimal :=
  let e := p - count
  -- A quarter of the unit of `x`, over `10 ^ e`, as a quotient.
  let up := 2 ^ (x.exponent - 2).toNat * 10 ^ (-e).toNat
  let down := 2 ^ (2 - x.exponent).toNat * 10 ^ e.toNat
  let (below, self, above) := x.quarters
  let inside := fun c : Nat =>
    if x.mantissa % 2 = 0 then decide (below * up ≤ c * down ∧ c * down ≤ above * up)
    else decide (below * up < c * down ∧ c * down < above * up)
  let c := self * up / down
  let r := self * up % down
  match inside c, inside (c + 1) with
  | true, true =>
    if 2 * r < down ∨ (2 * r = down ∧ c % 2 = 0) then some ⟨c, e⟩ else some ⟨c + 1, e⟩
  | true, false => some ⟨c, e⟩
  | false, true => some ⟨c + 1, e⟩
  | false, false => none

/-- The shortest decimal that stands for `x`, with the power of ten just above `x`.  Seventeen
    digits are always enough. -/
def shortest (x : Binary64) : Decimal :=
  let p := magnitude x.ratio.1 x.ratio.2
  ((List.range 17).findSome? fun k => x.onGrid p (k + 1)).getD ⟨x.mantissa, 0⟩

/-- The digits without zeros at their end. -/
def trimZeros (cs : List Char) : List Char := (cs.reverse.dropWhile (· == '0')).reverse

/-- Digits with a point after the first, if there are more. -/
def pointed : List Char → List Char
  | [] => []
  | [c] => [c]
  | c :: cs => c :: '.' :: cs

/-- A decimal exponent: its sign, also a positive one, and its digits. -/
def exponentText (e : Int) : List Char :=
  'e' :: (if e < 0 then '-' else '+') :: Nat.toDigits 10 e.natAbs

/-- The text of the number. -/
def text (x : Binary64) : String :=
  if x.isZero then "0.0"
  else
    let d := x.shortest
    let all := Nat.toDigits 10 d.digits
    let ds := trimZeros all
    let e : Int := d.exponent + all.length - 1
    String.ofList <|
      if e < -5 ∨ 15 < e then pointed ds ++ exponentText e
      else if e < 0 then '0' :: '.' :: List.replicate (-e - 1).toNat '0' ++ ds
      else
        let whole := e.toNat + 1
        if ds.length ≤ whole then ds ++ List.replicate (whole - ds.length) '0' ++ ['.', '0']
        else ds.take whole ++ '.' :: ds.drop whole

end Binary64

end NonceAllocation
