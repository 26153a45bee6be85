import NonceAllocation.Chain.Directory
import NonceAllocation.Config
import NonceAllocation.Family
import NonceAllocation.Node.Source
import NonceAllocation.Tracker

namespace NonceAllocation

/-!
# The registry: a tracker for every chain

* `LedgerSet` — the wallet's ledgers, one per chain; two chains must not share one, since records do
  not say which chain they belong to;
* `ChainTracker` — the tracker of a chain of either family, asked by the text of an account;
* `Registry.build` — the registry of the configured chains;
* `Registry.tracker?`, `Registry.next` — a chain's tracker, and a decision.
-/

/-! ### The wallet's ledgers -/

/-- The wallet's ledgers, by chain. -/
structure LedgerSet where
  evm : Directory (Ledger EvmAddress 256)
  filecoin : Directory (Ledger FilAddress 64)

namespace LedgerSet

def empty : LedgerSet := ⟨.empty, .empty⟩

/-- Enters a chain's ledger, in the stead of an earlier one. -/
def withEvm (s : LedgerSet) (chain : EvmChain) (ledger : Ledger EvmAddress 256) : LedgerSet :=
  { s with evm := s.evm.put chain.id ledger }

@[inherit_doc withEvm]
def withFilecoin (s : LedgerSet) (network : FilNetwork) (ledger : Ledger FilAddress 64) :
    LedgerSet :=
  { s with filecoin := s.filecoin.put network.id ledger }

end LedgerSet

/-! ### Trackers of either family -/

/-- A nonce, at the width of its family. -/
inductive ChainNonce where
  | evm (nonce : Nonce 256)
  | filecoin (nonce : Nonce 64)
deriving DecidableEq

namespace ChainNonce

def text : ChainNonce → String
  | evm nonce => nonce.text
  | filecoin nonce => nonce.text

end ChainNonce

/-- Why a chain's tracker does not tell a nonce. -/
inductive ChainNonceError where
  | account (error : AccountError)
  | evm (error : NonceError 256)
  | filecoin (error : NonceError 64)
deriving DecidableEq

/-- What a step of a request to a chain's tracker comes to. -/
inductive ChainOutcome where
  | pending
  | answered (result : Except ChainNonceError ChainNonce)

/-- The tracker of a chain. -/
inductive ChainTracker where
  | evm (source : EvmSource) (tracker : Tracker EvmAddress 256)
  | filecoin (source : FilecoinSource) (tracker : Tracker FilAddress 64)

namespace ChainTracker

def id : ChainTracker → ChainId
  | evm source _ => source.chain.id
  | filecoin source _ => source.network.id

/-- What a step of an EVM tracker comes to, as one of a chain. -/
def evmOutcome : Outcome 256 → ChainOutcome
  | .answered (.ok n) => .answered (.ok (.evm n))
  | .answered (.error e) => .answered (.error (.evm e))
  | _ => .pending

/-- What a step of a Filecoin tracker comes to, as one of a chain. -/
def filecoinOutcome : Outcome 64 → ChainOutcome
  | .answered (.ok n) => .answered (.ok (.filecoin n))
  | .answered (.error e) => .answered (.error (.filecoin e))
  | _ => .pending

/-- A request for the account of a text, polled once; `answers` says whether the network answers
    at once or keeps its callers waiting.  A text that names no account of the family is refused
    before anything is asked. -/
def request (t : ChainTracker) (network : Option Network) (account : String) :
    ChainOutcome × ChainTracker :=
  match t with
  | evm source tracker =>
    match NonceAllocation.evm.readAccount account with
    | .error e => (.answered (.error (.account e)), t)
    | .ok a =>
      let (outcome, _, tracker) := tracker.request (network.map fun n => source.count n a) a
      (evmOutcome outcome, evm source tracker)
  | filecoin source tracker =>
    match (NonceAllocation.filecoin source.network).readAccount account with
    | .error e => (.answered (.error (.account e)), t)
    | .ok a =>
      let (outcome, _, tracker) := tracker.request (network.map fun n => source.count n a) a
      (filecoinOutcome outcome, filecoin source tracker)

end ChainTracker

/-! ### The registry -/

/-- Why there is no registry. -/
inductive RegistryError where
  | missingLedger (chain : ChainId)
  | source (fault : SourceFault)
deriving DecidableEq

def RegistryError.message : RegistryError → String
  | .missingLedger chain => "No ledger registered for " ++ chain.text
  | .source fault => fault.message

/-- Connects the nodes of a configured chain and pairs them with the chain's ledger, which is looked
    up first. -/
def ChainTracker.ofConfig (ledgers : LedgerSet) (config : ChainConfig) :
    Except RegistryError ChainTracker := do
  match config with
  | .evm chain settings =>
    let ledger ← (ledgers.evm.get? chain.id).elim (.error (.missingLedger chain.id)) .ok
    let source ← (EvmSource.ofSettings chain settings).mapError .source
    .ok (.evm source (.new ledger))
  | .filecoin network settings =>
    let ledger ← (ledgers.filecoin.get? network.id).elim (.error (.missingLedger network.id)) .ok
    let source ← (FilecoinSource.ofSettings network settings).mapError .source
    .ok (.filecoin source (.new ledger))

/-- The trackers, by chain. -/
structure Registry where
  trackers : Directory ChainTracker

namespace Registry

/-- Enters the trackers of configured chains in turn. -/
def enter (ledgers : LedgerSet) (r : Registry) : List ChainConfig → Except RegistryError Registry
  | [] => .ok r
  | c :: cs => do
    let t ← ChainTracker.ofConfig ledgers c
    enter ledgers ⟨r.trackers.put t.id t⟩ cs

/-- The registry of the configured chains; the first one that fails ends the building. -/
def build (ledgers : LedgerSet) (chains : List ChainConfig) : Except RegistryError Registry :=
  enter ledgers ⟨.empty⟩ chains

/-- The tracker of exactly this chain. -/
def tracker? (r : Registry) (c : ChainId) : Option ChainTracker := r.trackers.get? c

def ids (r : Registry) : List ChainId := r.trackers.ids

def size (r : Registry) : Nat := r.trackers.size

def isEmpty (r : Registry) : Bool := r.trackers.isEmpty

/-- A request to a chain's tracker, polled once; `none` if there is no such chain. -/
def request (r : Registry) (network : Option Network) (c : ChainId) (account : String) :
    Option ChainOutcome × Registry :=
  match r.tracker? c with
  | none => (none, r)
  | some t =>
    let (outcome, t) := t.request network account
    (some outcome, ⟨r.trackers.put c t⟩)

end Registry

end NonceAllocation
