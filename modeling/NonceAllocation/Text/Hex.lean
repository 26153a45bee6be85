import NonceAllocation.Text.Digit
import NonceAllocation.Text.Quoted

namespace NonceAllocation

/-!
# Bytes as hexadecimal digits

Two digits a byte, the higher half first.  A text is judged by its bytes: their number must be even,
then it must be the wanted one, and then the first byte that is no digit is reported.

* `Hex.encode` — lower-case digits of bytes;
* `Hex.decode` — the bytes of digits in either case.
-/

/-- Why a text does not spell the wanted number of bytes. -/
inductive HexFault where
  | oddLength
  | wrongLength
  | badDigit (byte : UInt8) (position : Nat)
deriving DecidableEq

/-- The wording of each cause.  A bad byte is shown as the character of its number. -/
def HexFault.message : HexFault → String
  | .oddLength => "odd number of digits"
  | .wrongLength => "invalid string length"
  | .badDigit byte position =>
    "invalid character " ++ quotedChar (Char.ofNat byte.toNat) ++ " at position "
      ++ toString position

namespace Hex

/-- The digit of a number below 16. -/
def digit (n : Nat) : Char := Nat.digitChar n

/-- The value of a byte that is a digit. -/
def value? (b : UInt8) : Option Nat := Digit.value? 16 (Char.ofNat b.toNat)

/-- Two lower-case digits for each byte. -/
def encode (bytes : List UInt8) : List Char :=
  bytes.flatMap fun b => [digit (b.toNat / 16), digit (b.toNat % 16)]

/-- The values of digits, `position` being that of the first. -/
def values (position : Nat) : List UInt8 → Except HexFault (List Nat)
  | [] => .ok []
  | b :: bs =>
    match value? b with
    | none => .error (.badDigit b position)
    | some n => (values (position + 1) bs).map (n :: ·)

/-- Joins the values of digits in pairs. -/
def pairs : List Nat → List UInt8
  | high :: low :: rest => UInt8.ofNat (high * 16 + low) :: pairs rest
  | _ => []

/-- The `count` bytes that a text spells. -/
def decode (count : Nat) (text : List Char) : Except HexFault (List UInt8) :=
  let bytes := text.flatMap String.utf8EncodeChar
  if bytes.length % 2 = 1 then .error .oddLength
  else if bytes.length ≠ 2 * count then .error .wrongLength
  else (values 0 bytes).map pairs

theorem length_values {position : Nat} {bs : List UInt8} {ns : List Nat}
    (h : values position bs = .ok ns) : ns.length = bs.length := by
  induction bs generalizing position ns with
  | nil =>
    cases h
    rfl
  | cons b bs ih =>
    rw [values] at h
    split at h
    · cases h
    · cases hr : values (position + 1) bs with
      | error e => rw [hr] at h; cases h
      | ok ms =>
        rw [hr] at h
        cases h
        simp [ih hr]

theorem length_pairs : ∀ ns : List Nat, (pairs ns).length = ns.length / 2
  | [] => rfl
  | [_] => by simp [pairs]
  | _ :: _ :: rest => by
    simp only [pairs, List.length_cons, length_pairs rest]
    omega

/-- What is read has the wanted number of bytes. -/
theorem length_of_decode {count : Nat} {text : List Char} {bytes : List UInt8}
    (h : decode count text = .ok bytes) : bytes.length = count := by
  unfold decode at h
  simp only at h
  split at h
  · cases h
  · split at h
    · cases h
    · rename_i hlen
      cases hv : values 0 (text.flatMap String.utf8EncodeChar) with
      | error e => rw [hv] at h; cases h
      | ok ns =>
        rw [hv] at h
        cases h
        rw [length_pairs, length_values hv]
        omega

end Hex

end NonceAllocation
