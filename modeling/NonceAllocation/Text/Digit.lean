namespace NonceAllocation

/-!
# Digits

Digits count from 0 to 9, and the letters from a to z, in either case, go on from ten.

* `Digit.value?` — the value of a digit of a radix.
-/

namespace Digit

/-- The value of a digit, if it is below the radix. -/
def value? (radix : Nat) (c : Char) : Option Nat :=
  let value :=
    if c.isDigit then some (c.toNat - 48)
    else if c.isLower then some (c.toNat - 87)
    else if c.isUpper then some (c.toNat - 55)
    else none
  value.filter fun d => decide (d < radix)

/-- Digits of a radix are below it. -/
theorem lt_of_value? {radix d : Nat} {c : Char} (h : value? radix c = some d) : d < radix := by
  have h := (Option.filter_eq_some_iff.1 h).2
  exact of_decide_eq_true h

end Digit

end NonceAllocation
