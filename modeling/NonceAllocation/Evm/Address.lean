import NonceAllocation.Text.Hex

namespace NonceAllocation

/-!
# EVM addresses

An address is twenty bytes, written as `0x` and forty lower-case hexadecimal digits.

* `EvmAddress.read` — the text of an account: `0x` and forty digits in any case;
* `EvmAddress.readLoose` — the text of an account in a record, where the marker may be `0X` or
  missing.
-/

/-- Twenty bytes. -/
@[ext] structure EvmAddress where
  bytes : List UInt8
  length_bytes : bytes.length = 20
deriving DecidableEq

namespace EvmAddress

def text (a : EvmAddress) : String := String.ofList ('0' :: 'x' :: Hex.encode a.bytes)

/-- Forty digits. -/
def ofDigits (cs : List Char) : Except HexFault EvmAddress :=
  match h : Hex.decode 20 cs with
  | .ok bytes => .ok ⟨bytes, Hex.length_of_decode h⟩
  | .error e => .error e

/-- Forty digits behind `0x`; `none` as the fault stands for a missing marker. -/
def read (s : String) : Except (Option HexFault) EvmAddress :=
  match s.toList with
  | '0' :: 'x' :: cs => (ofDigits cs).mapError some
  | _ => .error none

/-- Forty digits, behind `0x`, `0X` or nothing. -/
def readLoose (s : String) : Except HexFault EvmAddress :=
  match s.toList with
  | '0' :: 'x' :: cs => ofDigits cs
  | '0' :: 'X' :: cs => ofDigits cs
  | cs => ofDigits cs

end EvmAddress

end NonceAllocation
