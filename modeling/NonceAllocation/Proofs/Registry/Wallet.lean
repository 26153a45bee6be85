import NonceAllocation.Proofs.Registry.Construction
import NonceAllocation.Proofs.Registry.Operations
import NonceAllocation.Wallet

namespace NonceAllocation

/-!
# The wallet — its chains side by side

A wallet is built once.  From then on its ledgers are written and its chains are asked, in any
order.

* `Wallet.apply`, `Wallet.run` — one operation, and several in turn;
* `Wallet.tracker?_apply`, `Wallet.tracker?_run` — a chain's tracker goes through the operations on
  its own chain, as if there were no other;
* `Wallet.InStep`, `Wallet.InStep.run` — the trackers read the ledgers that the wallet holds;
* `Wallet.Keeps`, `Wallet.keeps_run` — what has become of one chain;
* `Wallet.serves_run` — all of it, from the building on.
-/

/-! ### Directories of trackers -/

namespace Directory

variable {α : Type} {d : Directory α} {c : ChainId} {a : α}

theorem place_of_lookup {es : List (ChainId × α)} (h : es.lookup c = some a) :
    place c a es = es := by
  induction es with
  | nil => cases h
  | cons e es ih =>
    obtain ⟨k, b⟩ := e
    rw [lookup_cons_eq] at h
    rw [place]
    by_cases hk : c = k
    · rw [if_pos hk, Option.some.injEq] at h
      rw [if_pos hk.symm, hk, h]
    · rw [if_neg hk] at h
      rw [if_neg (Ne.symm hk), ih h]

/-- Entering what is there already changes nothing. -/
theorem put_of_get? (h : d.get? c = some a) : d.put c a = d :=
  congrArg Directory.mk (place_of_lookup h)

end Directory

namespace LedgerSet

open Wallet

/-- Enters a ledger under an identifier. -/
def put (s : LedgerSet) (c : ChainId) : ChainLedger → LedgerSet
  | .evm ledger => { s with evm := s.evm.put c ledger }
  | .filecoin ledger => { s with filecoin := s.filecoin.put c ledger }

/-- The ledger of a tracker's chain. -/
def of? (s : LedgerSet) : ChainTracker → Option ChainLedger
  | .evm source _ => (s.evm.get? source.chain.id).map .evm
  | .filecoin source _ => (s.filecoin.get? source.network.id).map .filecoin

variable {s : LedgerSet} {c : ChainId} {t t' : ChainTracker} {l : ChainLedger}

theorem of?_congr (h : t.nodes = t'.nodes) : s.of? t = s.of? t' := by
  cases t <;> cases t' <;> cases h <;> rfl

theorem of?_put :
    (s.put c l).of? t = ((Operation.write c l).written? t.id t).or (s.of? t) := by
  cases t with
  | evm source tracker =>
    cases l with
    | evm ledger =>
      show ((s.evm.put c ledger).get? source.chain.id).map ChainLedger.evm
        = (if source.chain.id = c ∧ true = true then some (.evm ledger) else none).or _
      rw [Directory.get?_put]
      by_cases hc : source.chain.id = c <;> simp [hc, of?]
    | filecoin ledger => simp [put, of?, Operation.written?, ChainTracker.takes]
  | filecoin source tracker =>
    cases l with
    | evm ledger => simp [put, of?, Operation.written?, ChainTracker.takes]
    | filecoin ledger =>
      show ((s.filecoin.put c ledger).get? source.network.id).map ChainLedger.filecoin
        = (if source.network.id = c ∧ true = true then some (.filecoin ledger) else none).or _
      rw [Directory.get?_put]
      by_cases hc : source.network.id = c <;> simp [hc, of?]

/-- A tracker is built over the ledger of its chain. -/
theorem of?_of_ofConfig {config : ChainConfig} (h : ChainTracker.ofConfig s config = .ok t) :
    s.of? t = some t.ledger := by
  cases config with
  | evm chain settings =>
    simp only [ChainTracker.ofConfig, bind_eq_ok_iff, elim_eq_ok_iff, mapError_eq_ok_iff] at h
    obtain ⟨ledger, hledger, source, hsource, ht⟩ := h
    cases ht
    rw [of?, (EvmSource.of_ofSettings hsource).1, hledger]
    rfl
  | filecoin network settings =>
    simp only [ChainTracker.ofConfig, bind_eq_ok_iff, elim_eq_ok_iff, mapError_eq_ok_iff] at h
    obtain ⟨ledger, hledger, source, hsource, ht⟩ := h
    cases ht
    rw [of?, FilecoinSource.network_of_ofSettings hsource, hledger]
    rfl

end LedgerSet

/-! ### Wallets under operations -/

namespace Wallet

open Operation

def apply (w : Wallet) : Operation → Wallet
  | .write c (.evm ledger) => w.putEvm c ledger
  | .write c (.filecoin ledger) => w.putFilecoin c ledger
  | .request network c account => (w.request network c account).2

/-- The wallet after some operations, one after the other. -/
def run (w : Wallet) (ops : List Operation) : Wallet := ops.foldl apply w

variable {w : Wallet} {i c : ChainId} {t : ChainTracker} {op : Operation} {ops : List Operation}

/-! A chain's tracker. -/

theorem tracker?_mapTracker (f : ChainTracker → ChainTracker) :
    (w.mapTracker c f).registry.tracker? i
      = (w.registry.tracker? i).map fun t => if i = c then f t else t := by
  rw [mapTracker]
  cases hc : w.registry.tracker? c with
  | none =>
    by_cases hi : i = c
    · simp [hi, hc]
    · simp [hi]
  | some t =>
    show (w.registry.trackers.put c (f t)).get? i = _
    rw [Directory.get?_put]
    by_cases hi : i = c
    · simp [hi, hc]
    · simp [hi, Registry.tracker?]

/-- A ledger is entered among the wallet's and handed to the tracker of its chain. -/
theorem apply_write (ledger : ChainLedger) :
    w.apply (.write c ledger)
      = { w with ledgers := w.ledgers.put c ledger }.mapTracker c fun t => t.write ledger := by
  cases ledger with
  | evm ledger =>
    refine congrArg (mapTracker _ c) (funext fun t => ?_)
    cases t <;> rfl
  | filecoin ledger =>
    refine congrArg (mapTracker _ c) (funext fun t => ?_)
    cases t <;> rfl

theorem apply_request (network : Option Network) (s : String) :
    w.apply (.request network c s) = w.mapTracker c fun t => (t.request network s).2 := by
  simp only [apply, request, Registry.request, mapTracker]
  cases w.registry.tracker? c <;> rfl

/-- **An operation is its chain's business alone.** -/
theorem tracker?_apply :
    (w.apply op).registry.tracker? i = (w.registry.tracker? i).map fun t => op.on i t := by
  cases op with
  | write c ledger =>
    rw [apply_write, tracker?_mapTracker]
    rfl
  | request network c account =>
    rw [apply_request, tracker?_mapTracker]
    rfl

/-- A chain's tracker goes through the operations on its chain, as if there were no other. -/
theorem tracker?_run :
    (w.run ops).registry.tracker? i = (w.registry.tracker? i).map fun t => t.after i ops := by
  induction ops generalizing w with
  | nil => exact Option.map_id'.symm
  | cons op ops ih =>
    show ((w.apply op).run ops).registry.tracker? i = _
    rw [ih, tracker?_apply, Option.map_map]
    rfl

/-! A request to a chain. -/

theorem request_of_unknown (h : w.registry.tracker? i = none) (network : Option Network)
    (s : String) : w.request network i s = (none, w) := by
  rw [request, Registry.request, h]

theorem request_of_tracker (h : w.registry.tracker? i = some t) (network : Option Network)
    (s : String) : (w.request network i s).1 = some (t.request network s).1 := by
  simp only [request, Registry.request, h]

/-- A request whose text is refused leaves the wallet as it was. -/
theorem request_of_refuses (h : w.registry.tracker? i = some t) {s : String} {e : AccountError}
    (hrefuses : t.Refuses s e) (network : Option Network) :
    w.request network i s = (some (.answered (.error (.account e))), w) := by
  simp only [request, Registry.request, h, ChainTracker.request_of_refuses hrefuses]
  rw [Directory.put_of_get? h]

/-! The ledgers that the wallet holds. -/

theorem ledgers_mapTracker (f : ChainTracker → ChainTracker) :
    (w.mapTracker c f).ledgers = w.ledgers := by
  rw [mapTracker]
  split <;> rfl

/-- What the wallet holds for a tracker changes by what is written for it. -/
theorem ledgerOf?_apply :
    (w.apply op).ledgers.of? t = (op.written? t.id t).or (w.ledgers.of? t) := by
  cases op with
  | write c ledger =>
    rw [apply_write, ledgers_mapTracker]
    exact LedgerSet.of?_put
  | request network c account =>
    rw [apply_request, ledgers_mapTracker]
    rfl

/-- Whether every tracker is found under its own identifier and reads the ledger that the wallet
    holds for its chain. -/
structure InStep (w : Wallet) : Prop where
  id_eq : ∀ i t, w.registry.tracker? i = some t → t.id = i
  ledger_eq : ∀ i t, w.registry.tracker? i = some t → w.ledgers.of? t = some t.ledger

theorem InStep.apply (h : w.InStep) (op : Operation) : (w.apply op).InStep := by
  -- Whatever tracker is found afterwards was there before.
  have hbefore : ∀ i t', (w.apply op).registry.tracker? i = some t' →
      ∃ t, w.registry.tracker? i = some t ∧ op.on i t = t' := by
    intro i t' ht'
    rw [tracker?_apply] at ht'
    exact Option.map_eq_some_iff.1 ht'
  constructor
  · intro i t' ht'
    obtain ⟨t, ht, rfl⟩ := hbefore i t' ht'
    exact (ChainTracker.id_congr nodes_on).trans (h.id_eq i t ht)
  · intro i t' ht'
    obtain ⟨t, ht, rfl⟩ := hbefore i t' ht'
    obtain rfl := h.id_eq i t ht
    rw [LedgerSet.of?_congr nodes_on, ledgerOf?_apply, h.ledger_eq _ t ht, ledger_on,
      Option.or_some]

theorem InStep.run (h : w.InStep) (ops : List Operation) : (w.run ops).InStep := by
  induction ops generalizing w with
  | nil => exact h
  | cons op ops ih => exact ih (h.apply op)

end Wallet

/-! ### From the building on -/

namespace Wallet

open Operation

/-- What has become of the chain `i`, which was built as `t₀`. -/
structure Keeps (w : Wallet) (i : ChainId) (t₀ : ChainTracker) (ops : List Operation) : Prop where
  /-- Its nodes are those of the configuration, and it reads the ledger that was written last, or
      else the one that was registered. -/
  tracker : ∃ t, w.registry.tracker? i = some t ∧ t.nodes = t₀.nodes ∧
    t.ledger = (lastWritten? i t₀ ops).getD t₀.ledger
  /-- A text that names no account of it is refused, whoever has the lock and whatever the nodes do,
      and nothing has changed. -/
  refused : ∀ s e, t₀.Refuses s e → ∀ network,
    w.request network i s = (some (.answered (.error (.account e))), w)
  /-- As long as its nodes have never kept a caller waiting, whatever those of other chains have
      done, a request is answered at once, on that ledger. -/
  told : (∀ s, .request none i s ∉ ops) → ∀ n s, (w.request (some n) i s).1
    = some (.answered (((lastWritten? i t₀ ops).elim t₀ t₀.write).told n s))

/-- What has become of a wallet of the chains `chains` over the ledgers that were registered. -/
structure Serves (rs : List Registration) (chains : List ChainConfig) (ops : List Operation)
    (w : Wallet) : Prop where
  /-- It has a tracker for the identifiers of the chains, and for no other. -/
  found_iff : ∀ i, (w.registry.tracker? i).isSome ↔ i ∈ chains.map ChainConfig.id
  /-- A request to any other chain is not answered, and nothing has changed. -/
  unknown : ∀ i, i ∉ chains.map ChainConfig.id → ∀ network s, w.request network i s = (none, w)
  /-- The trackers read the ledgers that it holds. -/
  in_step : w.InStep
  /-- Every EVM chain has a node to ask. -/
  has_node : ∀ i source tracker, w.registry.tracker? i = some (.evm source tracker) →
    source.endpoints ≠ []
  /-- The last chain of an identifier is served. -/
  keeps : ∀ pre c post, chains = pre ++ c :: post → c.id ∉ post.map ChainConfig.id →
    ∃ t₀, c.IsTrackedBy rs t₀ ∧ w.Keeps c.id t₀ ops

variable {w : Wallet} {i : ChainId} {t₀ : ChainTracker} {ops : List Operation}

theorem keeps_run (h : w.registry.tracker? i = some t₀) (hfree : t₀.isFree = true)
    (ops : List Operation) : (w.run ops).Keeps i t₀ ops := by
  have hafter : (w.run ops).registry.tracker? i = some (t₀.after i ops) := by
    rw [tracker?_run, h]
    rfl
  refine ⟨⟨_, hafter, ChainTracker.nodes_after, ChainTracker.ledger_after⟩, ?_, ?_⟩
  · intro s e hrefuses network
    have hrefuses : (t₀.after i ops).Refuses s e :=
      (ChainTracker.refuses_congr ChainTracker.nodes_after).2 hrefuses
    exact request_of_refuses hafter hrefuses network
  · intro hprompt n s
    rw [request_of_tracker hafter,
      ChainTracker.request_eq_told (ChainTracker.isFree_after hprompt hfree),
      ChainTracker.told_after]

section

variable {cs : List ChainConfig} {t : ChainTracker}

theorem inStep_of_build (h : Registry.build w.ledgers cs = .ok w.registry) : w.InStep where
  id_eq i t ht := by
    obtain ⟨c, -, rfl, hc⟩ := Registry.exists_of_tracker?_build h ht
    exact ChainTracker.id_of_ofConfig hc
  ledger_eq i t ht := by
    obtain ⟨c, -, -, hc⟩ := Registry.exists_of_tracker?_build h ht
    exact LedgerSet.of?_of_ofConfig hc

/-- A tracker is only built for nodes of which there is one. -/
theorem endpoints_of_build (h : Registry.build w.ledgers cs = .ok w.registry)
    (ht : w.registry.tracker? i = some t) {source : EvmSource} (hnodes : t.nodes = .inl source) :
    source.endpoints ≠ [] := by
  obtain ⟨c, -, -, hc⟩ := Registry.exists_of_tracker?_build h ht
  cases c with
  | evm chain settings =>
    simp only [ChainTracker.ofConfig, bind_eq_ok_iff, mapError_eq_ok_iff] at hc
    obtain ⟨ledger, -, source', hsource, hc⟩ := hc
    cases hc
    cases hnodes
    exact (EvmSource.of_ofSettings hsource).2
  | filecoin network settings =>
    simp only [ChainTracker.ofConfig, bind_eq_ok_iff] at hc
    obtain ⟨ledger, -, source', -, hc⟩ := hc
    cases hc
    cases hnodes

end

theorem ofConfig_eq_ok_iff {ledgers : LedgerSet} {config : Config} :
    ofConfig ledgers config = .ok w ↔
      Registry.build ledgers config.chains = .ok w.registry ∧ w.ledgers = ledgers := by
  rw [ofConfig, bind_eq_ok_iff]
  constructor
  · rintro ⟨registry, hbuild, hw⟩
    cases hw
    exact ⟨hbuild, rfl⟩
  · rintro ⟨hbuild, rfl⟩
    exact ⟨w.registry, hbuild, rfl⟩

/-- **Serving a configuration.**  However the ledgers are written and the chains asked, a chain goes
    by its own nodes and its own ledger, and a chain whose nodes answer is answered for. -/
theorem serves_run {rs : List Registration} {config : Config} {w : Wallet}
    (h : ofConfig (.ofRegistrations rs) config = .ok w) (ops : List Operation) :
    Serves rs config.chains ops (w.run ops) := by
  obtain ⟨hbuild, hledgers⟩ := ofConfig_eq_ok_iff.1 h
  have hfound : ∀ i, ((w.run ops).registry.tracker? i).isSome ↔
      i ∈ config.chains.map ChainConfig.id := by
    intro i
    rw [tracker?_run, Option.isSome_map, Registry.isSome_tracker?_build_iff hbuild]
  have hbuild' : Registry.build w.ledgers config.chains = .ok w.registry := hledgers ▸ hbuild
  refine ⟨hfound, ?_, (inStep_of_build hbuild').run ops, ?_, ?_⟩
  · intro i hi network s
    exact request_of_unknown (Option.not_isSome_iff_eq_none.1 (mt (hfound i).1 hi)) network s
  · intro i source tracker ht
    rw [tracker?_run] at ht
    obtain ⟨t₀, ht₀, hafter⟩ := Option.map_eq_some_iff.1 ht
    refine endpoints_of_build hbuild' ht₀ ?_
    have hnodes : (t₀.after i ops).nodes = t₀.nodes := ChainTracker.nodes_after
    rw [← hnodes, hafter]
    rfl
  · intro pre c post hchains hlast
    rw [hchains] at hbuild
    obtain ⟨t₀, ht₀, hfound⟩ := Registry.tracker?_build hbuild hlast
    have htracked := ChainTracker.isTrackedBy_of_ofConfig ht₀
    have hfree : t₀.isFree = true := by cases htracked <;> rfl
    exact ⟨t₀, htracked, keeps_run hfound hfree ops⟩

end Wallet

end NonceAllocation
