import NonceAllocation.Unsigned

namespace NonceAllocation

/-!
# Reading decimal integers

An optional sign, then one or more of the digits 0 to 9, leading zeros allowed.  The digits are
read from the left, and the first fault is the one reported: a character that is no digit, or the
digit that takes the value past the limit.

* `Unsigned.read` — numbers of a fixed width, with an optional `+`;
* `readSigned` — two's-complement numbers of a width, with an optional `+` or `-`.
-/

/-- Why a text is not an integer of the wanted width. -/
inductive IntegerFault where
  | empty
  | invalidDigit
  | tooLarge
  | tooSmall
deriving DecidableEq

/-- The wording of each cause. -/
def IntegerFault.message : IntegerFault → String
  | .empty => "cannot parse integer from empty string"
  | .invalidDigit => "invalid digit found in string"
  | .tooLarge => "number too large to fit in target type"
  | .tooSmall => "number too small to fit in target type"

/-- The value of a decimal digit. -/
def digitValue (c : Char) : Nat := c.toNat - '0'.toNat

/-- Extends `acc` by the digits of `cs`; `beyond` is the fault of passing `limit`. -/
def readMagnitude (limit : Nat) (beyond : IntegerFault) : Nat → List Char → Except IntegerFault Nat
  | acc, [] => .ok acc
  | acc, c :: cs =>
    if c.isDigit then
      let n := acc * 10 + digitValue c
      if n ≤ limit then readMagnitude limit beyond n cs else .error beyond
    else .error .invalidDigit

/-- What is read stays within the limit. -/
theorem readMagnitude_le {limit : Nat} {beyond : IntegerFault} {acc n : Nat} {cs : List Char}
    (hacc : acc ≤ limit) (h : readMagnitude limit beyond acc cs = .ok n) : n ≤ limit := by
  induction cs generalizing acc with
  | nil =>
    cases h
    exact hacc
  | cons c cs ih =>
    rw [readMagnitude] at h
    split at h
    · simp only at h
      split at h
      · rename_i hn
        exact ih hn h
      · cases h
    · cases h

/-- The digits of an unsigned number of the width. -/
def Unsigned.readDigits (bits : Nat) (cs : List Char) : Except IntegerFault (Unsigned bits) :=
  if cs.isEmpty then .error .invalidDigit
  else
    match h : readMagnitude (2 ^ bits - 1) .tooLarge 0 cs with
    | .ok n =>
      .ok ⟨n, Nat.lt_of_le_of_lt (readMagnitude_le (Nat.zero_le _) h)
        (Nat.sub_lt (Nat.two_pow_pos bits) Nat.one_pos)⟩
    | .error e => .error e

/-- Reads an unsigned number: an optional `+`, then digits. -/
def Unsigned.read (bits : Nat) (s : String) : Except IntegerFault (Unsigned bits) :=
  match s.toList with
  | [] => .error .empty
  | '+' :: cs => Unsigned.readDigits bits cs
  | cs => Unsigned.readDigits bits cs

/-- Reads a two's-complement number of `bits + 1` binary digits: an optional sign, then digits. -/
def readSigned (bits : Nat) (s : String) : Except IntegerFault Int :=
  match s.toList with
  | [] => .error .empty
  | ['+'] => .error .invalidDigit
  | ['-'] => .error .invalidDigit
  | '-' :: cs => (readMagnitude (2 ^ bits) .tooSmall 0 cs).map fun n => -(n : Int)
  | '+' :: cs => (readMagnitude (2 ^ bits - 1) .tooLarge 0 cs).map fun n => (n : Int)
  | cs => (readMagnitude (2 ^ bits - 1) .tooLarge 0 cs).map fun n => (n : Int)

end NonceAllocation
