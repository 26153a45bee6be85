import NonceAllocation.Chain.Id
import NonceAllocation.Text.Integer

namespace NonceAllocation

/-!
# References inside the two families

An EVM chain is known by its number, a Filecoin network by the letter that its addresses begin with.

* `EvmChain.id`, `EvmChain.ofId` — the number as a chain identifier, and back;
* `FilNetwork.id`, `FilNetwork.ofId` — the same for the letter;
* `ReferenceFault` — the family is looked at before the reference.
-/

/-- Why a chain identifier names no chain of the wanted family. -/
inductive ReferenceFault where
  | otherFamily (found wanted : String)
  | badNumber (reference : String)
  | badNetwork (reference : String)
deriving DecidableEq

def ReferenceFault.message : ReferenceFault → String
  | .otherFamily found wanted => "Invalid namespace " ++ found ++ ", expected " ++ wanted
  | .badNumber reference => "Invalid eip155 chain reference " ++ reference
  | .badNetwork reference => "Invalid fil chain reference " ++ reference ++ ", expected f or t"

/-! ### EVM chains -/

/-- The family of EVM chains. -/
def evmName : String := "eip155"

/-- An EVM chain, by its number. -/
structure EvmChain where
  number : Unsigned 64
deriving DecidableEq

namespace EvmChain

def id (c : EvmChain) : ChainId := ⟨evmName, c.number.text⟩

def ofId (i : ChainId) : Except ReferenceFault EvmChain :=
  if i.family = evmName then
    match Unsigned.read 64 i.reference with
    | .ok n => .ok ⟨n⟩
    | .error _ => .error (.badNumber i.reference)
  else .error (.otherFamily i.family evmName)

end EvmChain

/-! ### Filecoin networks -/

/-- The family of Filecoin networks. -/
def filecoinName : String := "fil"

inductive FilNetwork where
  | mainnet
  | testnet
deriving DecidableEq

namespace FilNetwork

/-- The letter that the network's addresses begin with. -/
def letter : FilNetwork → Char
  | mainnet => 'f'
  | testnet => 't'

def ofLetter? (c : Char) : Option FilNetwork :=
  if c = 'f' then some mainnet else if c = 't' then some testnet else none

@[simp] theorem ofLetter?_letter (n : FilNetwork) : ofLetter? n.letter = some n := by
  cases n <;> rfl

/-- The letter as a text. -/
def text (n : FilNetwork) : String := String.singleton n.letter

def id (n : FilNetwork) : ChainId := ⟨filecoinName, n.text⟩

def ofId (i : ChainId) : Except ReferenceFault FilNetwork :=
  if i.family = filecoinName then
    match i.reference.toList with
    | [c] => (ofLetter? c).elim (.error (.badNetwork i.reference)) .ok
    | _ => .error (.badNetwork i.reference)
  else .error (.otherFamily i.family filecoinName)

end FilNetwork

end NonceAllocation
