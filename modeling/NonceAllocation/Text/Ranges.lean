namespace NonceAllocation

/-!
# Ranges of characters

A property of characters is given as the list of its maximal runs of code points, in order.
-/

/-- Whether a character lies in one of the runs, ends included. -/
def inRanges (ranges : List (Nat × Nat)) (c : Char) : Bool :=
  ranges.any fun r => decide (r.1 ≤ c.toNat ∧ c.toNat ≤ r.2)

end NonceAllocation
