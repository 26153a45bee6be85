import NonceAllocation.Registry

namespace NonceAllocation

/-!
# The wallet: ledgers and the registry over them

The wallet goes on writing the ledgers that the trackers read.

* `Wallet.ofConfig` — the registry of the configured chains over the wallet's ledgers;
* `Wallet.putEvm`, `Wallet.putFilecoin` — a ledger's next state, which its chain's tracker sees.
-/

structure Wallet where
  ledgers : LedgerSet
  registry : Registry

namespace Wallet

/-- Builds the registry of the configured chains. -/
def ofConfig (ledgers : LedgerSet) (config : Config) : Except RegistryError Wallet := do
  .ok ⟨ledgers, ← Registry.build ledgers config.chains⟩

/-- Changes the tracker of a chain, if there is one. -/
def mapTracker (w : Wallet) (c : ChainId) (f : ChainTracker → ChainTracker) : Wallet :=
  match w.registry.tracker? c with
  | some t => { w with registry := ⟨w.registry.trackers.put c (f t)⟩ }
  | none => w

/-- The next state of an EVM chain's ledger. -/
def putEvm (w : Wallet) (c : ChainId) (ledger : Ledger EvmAddress 256) : Wallet :=
  { w with ledgers := { w.ledgers with evm := w.ledgers.evm.put c ledger } }.mapTracker c fun
    | .evm source tracker => .evm source (tracker.mapLedger fun _ => ledger)
    | t => t

/-- The next state of a Filecoin network's ledger. -/
def putFilecoin (w : Wallet) (c : ChainId) (ledger : Ledger FilAddress 64) : Wallet :=
  { w with ledgers := { w.ledgers with filecoin := w.ledgers.filecoin.put c ledger } }.mapTracker c
    fun
    | .filecoin source tracker => .filecoin source (tracker.mapLedger fun _ => ledger)
    | t => t

/-- A request to a chain's tracker. -/
def request (w : Wallet) (network : Option Network) (c : ChainId) (account : String) :
    Option ChainOutcome × Wallet :=
  let (outcome, registry) := w.registry.request network c account
  (outcome, { w with registry })

end Wallet

end NonceAllocation
