import NonceAllocation.Config.Chain

namespace NonceAllocation

/-!
# The configuration

The configuration lists the chains for which nonces are allocated, each under its identifier.

* `Config.json` — as JSON, under the identifiers of the chains themselves;
* `Config.decode`, `Config.read` — from a document and from a text.

Members of the list are taken one after the other, and of each in turn its key, whether the key was
seen before, its family, its settings and its reference; the first fault ends the reading.
-/

structure Config where
  /-- The chains, in the order in which they are listed. -/
  chains : List ChainConfig
deriving DecidableEq

namespace Config

def json (c : Config) : Json :=
  .object [("chains", .object (c.chains.map fun chain => (chain.id.text, chain.settingsJson)))]

/-- The chains of an object's members; the identifiers `seen` came before them. -/
def decodeMembers (env : Environment) :
    (seen : List ChainId) → Members → Except DecodeError (List ChainConfig)
  | _, .done ending => (checked ending.check).map fun _ => []
  | seen, .more key value _ rest => do
    let key ← checked key.read
    let c ← (ChainId.read key).mapError fun e => .refused e.message
    if c ∈ seen then .error (.refused ("Duplicate chain: " ++ c.text))
    let chain ← ChainConfig.decode env c value
    let chains ← decodeMembers env (c :: seen) rest
    .ok (chain :: chains)

/-- The chains, an object whose keys are chain identifiers. -/
def decodeChains (env : Environment) : Decoder (List ChainConfig)
  | .object members => decodeMembers env [] members
  | d => .error (d.mismatch "a map of chain identifiers to chain configurations")

open Decoder in
/-- Takes a member of the object. -/
def step (env : Environment) (s : Option (List ChainConfig)) (key : String) (d : Document) :
    Except DecodeError (Option (List ChainConfig)) :=
  match key with
  | "chains" => once key s (decodeChains env) d
  | _ => ignored s d

/-- A configuration, as an object or as a list of its one field, which may be left out. -/
def decode (env : Environment) : Decoder Config
  | .object members => do
    let chains ← members.collect (step env) none
    .ok ⟨chains.getD []⟩
  | .array is => do
    let (chains, is) ← is.optional (decodeChains env)
    is.close
    .ok ⟨chains.getD []⟩
  | d => .error (d.mismatch "struct Config")

/-- The configuration that a text holds. -/
def read (env : Environment) (s : String) : Except DecodeError Config := (decode env).run s

end Config

end NonceAllocation
