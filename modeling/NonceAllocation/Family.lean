import NonceAllocation.Evm.Address
import NonceAllocation.Filecoin.Address

namespace NonceAllocation

/-!
# The two chain families

A family fixes what an account is, how the text of one is read, and how wide its nonces are: EVM
chains count with 256 bits, Filecoin with 64.  Everything else is the same for both.

* `Family` — the name of a family and its reader of accounts;
* `evm`, `filecoin` — the two families; the second one network at a time, so that an account of one
  network never reaches the other.
-/

/-- What is wrong with the text of an account. -/
inductive AccountFault where
  | missingMarker
  | hex (fault : HexFault)
  | address (fault : FilAddressFault)
  | otherNetwork (wanted : FilNetwork)
deriving DecidableEq

def AccountFault.message : AccountFault → String
  | .missingMarker => "missing 0x prefix"
  | .hex fault => fault.message
  | .address fault => fault.message
  | .otherNetwork wanted => "expected a " ++ wanted.text ++ " address"

/-- A text that names no account of the family. -/
structure AccountError where
  family : String
  input : String
  fault : AccountFault
deriving DecidableEq

def AccountError.message (e : AccountError) : String :=
  "invalid " ++ e.family ++ " address " ++ quoted e.input ++ ": " ++ e.fault.message

/-- What sets one chain family apart; `bits` is the width of its nonces. -/
structure Family (Account : Type) (bits : Nat) where
  name : String
  readAccount : String → Except AccountError Account

/-- EVM chains: addresses of twenty bytes, nonces of 256 bits. -/
def evm : Family EvmAddress 256 where
  name := evmName
  readAccount s := (EvmAddress.read s).mapError fun fault =>
    ⟨evmName, s, fault.elim .missingMarker .hex⟩

/-- A Filecoin network: its own addresses only, nonces of 64 bits. -/
def filecoin (network : FilNetwork) : Family FilAddress 64 where
  name := filecoinName
  readAccount s :=
    match FilAddress.read s with
    | .error fault => .error ⟨filecoinName, s, .address fault⟩
    | .ok a =>
      if a.network = network then .ok a else .error ⟨filecoinName, s, .otherNetwork network⟩

end NonceAllocation
