namespace NonceAllocation

/-!
# Unsigned numbers of a fixed width

`Unsigned bits` is a natural number below `2 ^ bits`.  Nonces, times, EVM chain numbers and
request limits are such numbers, at different widths.

* `Unsigned.next?` — the successor, or `none` at the largest value: nothing wraps;
* `Unsigned.top` — the largest value;
* `Unsigned.widen` — the same number at a larger width.
-/

-- A power of natural numbers is the one of the core library, whatever else a module imports.
attribute [instance (1100), default_instance (20000)] instPowNat

/-- A natural number of at most `bits` binary digits. -/
@[ext] structure Unsigned (bits : Nat) where
  val : Nat
  val_lt : val < 2 ^ bits
deriving DecidableEq

namespace Unsigned

variable {bits : Nat}

/-- `n` as a number of the width, if it fits. -/
def ofNat? (bits n : Nat) : Option (Unsigned bits) :=
  if h : n < 2 ^ bits then some ⟨n, h⟩ else none

/-- The smallest number. -/
def zero : Unsigned bits := ⟨0, Nat.two_pow_pos bits⟩

/-- The largest number, `2 ^ bits - 1`. -/
def top : Unsigned bits := ⟨2 ^ bits - 1, Nat.sub_lt (Nat.two_pow_pos bits) Nat.one_pos⟩

/-- The number after `n`; the largest number has none. -/
def next? (n : Unsigned bits) : Option (Unsigned bits) := ofNat? bits (n.val + 1)

/-- The same number at a larger width. -/
def widen {wider : Nat} (h : bits ≤ wider) (n : Unsigned bits) : Unsigned wider :=
  ⟨n.val, Nat.lt_of_lt_of_le n.val_lt (Nat.pow_le_pow_right Nat.two_pos h)⟩

/-- Decimal digits without leading zeros. -/
def text (n : Unsigned bits) : String := toString n.val

instance : LE (Unsigned bits) := ⟨fun a b => a.val ≤ b.val⟩

instance : LT (Unsigned bits) := ⟨fun a b => a.val < b.val⟩

instance (a b : Unsigned bits) : Decidable (a ≤ b) := inferInstanceAs (Decidable (a.val ≤ b.val))

instance (a b : Unsigned bits) : Decidable (a < b) := inferInstanceAs (Decidable (a.val < b.val))

instance : Max (Unsigned bits) := ⟨fun a b => if a ≤ b then b else a⟩

theorem le_def {a b : Unsigned bits} : a ≤ b ↔ a.val ≤ b.val := Iff.rfl

theorem lt_def {a b : Unsigned bits} : a < b ↔ a.val < b.val := Iff.rfl

@[simp] theorem val_zero : (zero : Unsigned bits).val = 0 := rfl

@[simp] theorem val_top : (top : Unsigned bits).val = 2 ^ bits - 1 := rfl

@[simp] theorem val_widen {wider : Nat} (h : bits ≤ wider) (n : Unsigned bits) :
    (n.widen h).val = n.val := rfl

theorem val_max (a b : Unsigned bits) : (max a b).val = max a.val b.val := by
  show (if a ≤ b then b else a).val = _
  by_cases h : a ≤ b
  · rw [if_pos h, Nat.max_eq_right h]
  · rw [if_neg h, Nat.max_eq_left (Nat.le_of_not_le h)]

theorem le_top (a : Unsigned bits) : a ≤ top := Nat.le_sub_one_of_lt a.val_lt

theorem ofNat?_eq_some_iff {n : Nat} {a : Unsigned bits} : ofNat? bits n = some a ↔ n = a.val := by
  unfold ofNat?
  split
  · simp [Unsigned.ext_iff]
  · rename_i h
    simp only [reduceCtorEq, false_iff]
    rintro rfl
    exact h a.val_lt

theorem ofNat?_eq_none_iff {n : Nat} : ofNat? bits n = none ↔ 2 ^ bits ≤ n := by
  unfold ofNat?
  split <;> simp <;> omega

/-- The successor is one larger. -/
theorem next?_eq_some_iff {n m : Unsigned bits} : n.next? = some m ↔ m.val = n.val + 1 := by
  rw [next?, ofNat?_eq_some_iff, eq_comm]

/-- Only the largest number has no successor. -/
theorem next?_eq_none_iff {n : Unsigned bits} : n.next? = none ↔ n = top := by
  rw [next?, ofNat?_eq_none_iff, Unsigned.ext_iff, val_top]
  have := n.val_lt
  omega

end Unsigned

end NonceAllocation
