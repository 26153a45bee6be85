import NonceAllocation.Chain.Format
import NonceAllocation.Config.Endpoint
import NonceAllocation.Config.Setting

namespace NonceAllocation

/-!
# Chains as they are configured

* `BlockTag` — up to which block an EVM node counts;
* `EvmSettings`, `FilecoinSettings` — how the nodes of a chain are asked;
* `ChainConfig` — a chain with its settings, and `ChainConfig.decode`, which takes the family from
  the chain identifier.
-/

/-- Up to which block an EVM node counts an account's transactions. -/
inductive BlockTag where
  | latest
  | pending
deriving DecidableEq

namespace BlockTag

def name : BlockTag → String
  | latest => "latest"
  | pending => "pending"

def all : List BlockTag := [latest, pending]

/-- The tag of a configuration that names none. -/
def default : BlockTag := latest

def json (t : BlockTag) : Json := .string t.name

def decode : Decoder BlockTag := .enum all name

end BlockTag

/-! ### EVM chains -/

/-- How the nodes of an EVM chain are asked. -/
structure EvmSettings where
  endpoints : List Endpoint
  blockTag : BlockTag
deriving DecidableEq

namespace EvmSettings

def json (s : EvmSettings) : Json :=
  .object [("rpc", .array (s.endpoints.map Endpoint.json)), ("block_tag", s.blockTag.json)]

/-- The fields of the settings that have been found. -/
structure Fields where
  endpoints : Option (List Endpoint) := none
  blockTag : Option BlockTag := none

open Decoder in
/-- Takes a member of the object. -/
def Fields.step (s : Fields) (key : String) (d : Document) : Except DecodeError Fields :=
  match key with
  | "rpc" =>
    (once key s.endpoints (list Endpoint.decode) d).map fun endpoints => { s with endpoints }
  | "block_tag" => (once key s.blockTag BlockTag.decode d).map fun blockTag => { s with blockTag }
  | _ => ignored s d

open Decoder in
/-- The settings, as an object or as a list of its fields. -/
def decode : Decoder EvmSettings
  | .object members => do
    let s ← members.collect Fields.step {}
    let endpoints ← needed "rpc" s.endpoints
    .ok ⟨endpoints, s.blockTag.getD .default⟩
  | .array is => do
    let (endpoints, is) ←
      is.required 0 (described "Eip155ChainConfigInner" 2) (list Endpoint.decode)
    let (blockTag, is) ← is.optional BlockTag.decode
    is.close
    .ok ⟨endpoints, blockTag.getD .default⟩
  | d => .error (d.mismatch "struct Eip155ChainConfigInner")

end EvmSettings

/-! ### Filecoin networks -/

/-- How the node of a Filecoin network is asked. -/
structure FilecoinSettings where
  endpoint : Endpoint
  /-- What the node wants to see before it answers. -/
  token : Option String
deriving DecidableEq

namespace FilecoinSettings

def json (s : FilecoinSettings) : Json :=
  .ofMembers [
    some ("rpc", s.endpoint.json),
    s.token.map fun t => ("auth_token", .string t)]

/-- The fields of the settings that have been found. -/
structure Fields where
  endpoint : Option Endpoint := none
  token : Option (Option String) := none

/-- The token, which may come from the environment. -/
def decodeToken (env : Environment) : Decoder (Option String) := .option (Setting.text.decode env)

open Decoder in
/-- Takes a member of the object. -/
def Fields.step (env : Environment) (s : Fields) (key : String) (d : Document) :
    Except DecodeError Fields :=
  match key with
  | "rpc" => (once key s.endpoint Endpoint.decode d).map fun endpoint => { s with endpoint }
  | "auth_token" => (once key s.token (decodeToken env) d).map fun token => { s with token }
  | _ => ignored s d

open Decoder in
/-- The settings, as an object or as a list of its fields. -/
def decode (env : Environment) : Decoder FilecoinSettings
  | .object members => do
    let s ← members.collect (Fields.step env) {}
    let endpoint ← needed "rpc" s.endpoint
    .ok ⟨endpoint, s.token.join⟩
  | .array is => do
    let (endpoint, is) ← is.required 0 (described "FilecoinChainConfigInner" 2) Endpoint.decode
    let (token, is) ← is.optional (decodeToken env)
    is.close
    .ok ⟨endpoint, token.join⟩
  | d => .error (d.mismatch "struct FilecoinChainConfigInner")

end FilecoinSettings

/-! ### Either family -/

/-- A chain and how its nodes are asked. -/
inductive ChainConfig where
  | evm (chain : EvmChain) (settings : EvmSettings)
  | filecoin (network : FilNetwork) (settings : FilecoinSettings)
deriving DecidableEq

namespace ChainConfig

/-- The identifier of the chain itself, however it was spelled. -/
def id : ChainConfig → ChainId
  | evm chain _ => chain.id
  | filecoin network _ => network.id

/-- The settings as JSON. -/
def settingsJson : ChainConfig → Json
  | evm _ settings => settings.json
  | filecoin _ settings => settings.json

/-- The chain of an identifier, with the settings that a document holds.  The settings are decoded
    before the reference is looked at, and an EVM chain without endpoints is refused in between. -/
def decode (env : Environment) (c : ChainId) (d : Document) : Except DecodeError ChainConfig := do
  if c.family = evmName then
    let settings ← EvmSettings.decode d
    if settings.endpoints.isEmpty then
      .error (.refused ("No rpc endpoint configured for " ++ c.text))
    let chain ← (EvmChain.ofId c).mapError fun e => .refused e.message
    .ok (evm chain settings)
  else if c.family = filecoinName then
    let settings ← FilecoinSettings.decode env d
    let network ← (FilNetwork.ofId c).mapError fun e => .refused e.message
    .ok (filecoin network settings)
  else .error (.refused ("Unexpected namespace: " ++ c.family))

end ChainConfig

end NonceAllocation
