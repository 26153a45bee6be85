import NonceAllocation.Config.Chain
import NonceAllocation.Evm.Address
import NonceAllocation.Evm.Quantity
import NonceAllocation.Node.Answer
import NonceAllocation.Decision

namespace NonceAllocation

/-!
# Nodes as sources of nonces

* `NodeRequest` — what is sent to a node;
* `Fallback`, `Network` — what comes of it, and which exchange counts if several nodes are asked;
* `EvmSource`, `FilecoinSource` — the nodes of a chain, as they are asked;
* `EvmSource.ofSettings`, `FilecoinSource.ofSettings` — from the configuration;
* `EvmSource.count`, `FilecoinSource.count` — an account's transaction count.

The nodes of an EVM chain are asked all at once, and the answer of one of them counts, a good one if
there is any; which one is not for the tracker to say.  A failure of theirs is one of the transport,
whatever it is; a Filecoin node's own error is kept apart.
-/

/-- What is sent to a node. -/
structure NodeRequest where
  url : Url
  method : String
  params : List String
  /-- What the node is told about who asks. -/
  authorization : Option String
deriving DecidableEq

/-- Which exchange counts of those with nodes that are asked all at once: one of them, and a sound
    one if there is any. -/
structure Fallback where
  pick : List Exchange → Exchange
  pick_mem : ∀ es, es ≠ [] → pick es ∈ es
  pick_sound : ∀ es, ∀ e ∈ es, e.isSound = true → (pick es).isSound = true

/-- The first sound exchange in the order of the nodes, or else the first of all: what counts if the
    nodes answer in this order. -/
def Fallback.inOrder : Fallback where
  pick es := (es.find? Exchange.isSound).getD (es.headD (.failed "no node"))
  pick_mem es h := by
    cases hfound : es.find? Exchange.isSound with
    | some e => exact List.mem_of_find?_eq_some hfound
    | none =>
      cases es with
      | nil => exact absurd rfl h
      | cons e es => exact List.mem_cons_self
  pick_sound es e he hsound := by
    cases hfound : es.find? Exchange.isSound with
    | some e' => exact List.find?_some hfound
    | none => exact absurd hsound (List.find?_eq_none.1 hfound e he)

/-- The nodes as they are at one moment, and how they are asked. -/
structure Network where
  /-- What comes of sending a request. -/
  exchange : NodeRequest → Exchange
  fallback : Fallback
  /-- What is said of a text that does not decode. -/
  describe : DecodeError → String → String

/-- Why the nodes of a chain cannot be asked. -/
inductive SourceFault where
  /-- None of them is a web server. -/
  | noEndpoint (chain : ChainId)
  /-- The token cannot be sent. -/
  | badToken
  /-- A node allows no request at all.  The throttle that is to keep the limit does not stand for
      it: this is no error that the building returns, but its crash. -/
  | zeroLimit
deriving DecidableEq

def SourceFault.message : SourceFault → String
  | .noEndpoint chain => "no http rpc endpoint configured for " ++ chain.text
  | .badToken => "failed to parse header value"
  | .zeroLimit => "Request per second must be greater than 0"

/-- Whether an endpoint allows no request at all. -/
def Endpoint.isShut (e : Endpoint) : Bool := e.rateLimit.any fun n => n.val == 0

/-! ### EVM chains -/

/-- The nodes of an EVM chain. -/
structure EvmSource where
  chain : EvmChain
  endpoints : List Endpoint
  blockTag : BlockTag
deriving DecidableEq

namespace EvmSource

/-- The nodes that are web servers; there must be one, and each must allow requests. -/
def ofSettings (chain : EvmChain) (settings : EvmSettings) : Except SourceFault EvmSource :=
  let endpoints := settings.endpoints.filter fun e => e.url.isWeb
  if endpoints.any Endpoint.isShut then .error .zeroLimit
  else if endpoints.isEmpty then .error (.noEndpoint chain.id)
  else .ok ⟨chain, endpoints, settings.blockTag⟩

/-- What each node is asked. -/
def requests (s : EvmSource) (account : EvmAddress) : List NodeRequest :=
  s.endpoints.map fun e =>
    ⟨e.url, "eth_getTransactionCount", [account.text, s.blockTag.name], none⟩

/-- The account's transaction count, a quantity of 64 bits at the width of nonces. -/
def count (s : EvmSource) (network : Network) (account : EvmAddress) :
    Except SourceError (Nonce 256) :=
  let exchange := network.fallback.pick ((s.requests account).map network.exchange)
  match exchange.result (Quantity.decode 64) with
  | .ok n => .ok (n.widen (by decide))
  | .error fault => .error (.transport (fault.message network.describe))

end EvmSource

/-! ### Filecoin networks -/

/-- The node of a Filecoin network. -/
structure FilecoinSource where
  network : FilNetwork
  endpoint : Endpoint
  token : Option String
deriving DecidableEq

namespace FilecoinSource

/-- Whether a character can be sent in a header. -/
def isHeaderChar (c : Char) : Bool := c == '\t' || (decide (' ' ≤ c) && c != '\x7f')

/-- The node, which must be a web server; its token must be fit to be sent, and it must allow
    requests. -/
def ofSettings (network : FilNetwork) (settings : FilecoinSettings) :
    Except SourceFault FilecoinSource :=
  if settings.endpoint.url.isWeb = false then .error (.noEndpoint network.id)
  else if settings.token.any (fun t => !t.toList.all isHeaderChar) then .error .badToken
  else if settings.endpoint.isShut then .error .zeroLimit
  else .ok ⟨network, settings.endpoint, settings.token⟩

/-- What the node is asked. -/
def request (s : FilecoinSource) (account : FilAddress) : NodeRequest :=
  ⟨s.endpoint.url, "Filecoin.MpoolGetNonce", [account.text], s.token.map ("Bearer " ++ ·)⟩

/-- The account's transaction count, a number of 64 bits. -/
def count (s : FilecoinSource) (network : Network) (account : FilAddress) :
    Except SourceError (Nonce 64) :=
  match (network.exchange (s.request account)).result (Decoder.unsigned 64) with
  | .ok n => .ok n
  | .error (.refused e) => .error (.provider e.code e.message)
  | .error fault => .error (.transport (fault.message network.describe))

end FilecoinSource

end NonceAllocation
