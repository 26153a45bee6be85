import NonceAllocation.Chain.Reference
import NonceAllocation.Json.Decode
import NonceAllocation.Json.Value

namespace NonceAllocation

/-!
# Chain identifiers as JSON

A chain identifier, and what it identifies in each family, is written as its text.
-/

namespace ChainId

def json (c : ChainId) : Json := .string c.text

def decode : Decoder ChainId := .parsed fun s => (read s).mapError ChainIdFault.message

end ChainId

namespace EvmChain

def json (c : EvmChain) : Json := c.id.json

def decode : Decoder EvmChain := fun d => do
  (ofId (← ChainId.decode d)).mapError fun e => .refused e.message

end EvmChain

namespace FilNetwork

def json (n : FilNetwork) : Json := n.id.json

def decode : Decoder FilNetwork := fun d => do
  (ofId (← ChainId.decode d)).mapError fun e => .refused e.message

end FilNetwork

end NonceAllocation
