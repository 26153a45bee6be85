import Mathlib.Data.List.Induction
import NonceAllocation.Proofs.Config.Listing
import NonceAllocation.Proofs.Registry.Build

namespace NonceAllocation

/-!
# Building a registry — which chains can be built, and with what

The wallet registers ledgers one after the other, and the registry is built of configured chains one
after the other.  Either may name a chain again.

* `Registration`, `LedgerSet.ofRegistrations` — the ledgers, in the order of their registration;
* `ChainConfig.HasLedger`, `ChainConfig.IsReachable`, `ChainConfig.AllowsRequests` — what a chain
  needs;
* `ChainConfig.IsTrackedBy`, `ChainConfig.FailsWith` — the tracker of a chain, and why it has none;
* `ChainTracker.exists_ofConfig_iff`, `ChainTracker.isTrackedBy_of_ofConfig`,
  `ChainTracker.ofConfig_eq_error_iff` — one chain;
* `Registry.build_eq_error_iff` — the first chain that fails ends the building;
* `Registry.build_of_registrations` — the registry as a whole.
-/

/-! ### Registered ledgers -/

/-- A ledger that is registered for a chain. -/
inductive Registration where
  | evm (chain : EvmChain) (ledger : Ledger EvmAddress 256)
  | filecoin (network : FilNetwork) (ledger : Ledger FilAddress 64)

namespace Registration

def evm? : Registration → Option (EvmChain × Ledger EvmAddress 256)
  | evm chain ledger => some (chain, ledger)
  | filecoin _ _ => none

def filecoin? : Registration → Option (FilNetwork × Ledger FilAddress 64)
  | evm _ _ => none
  | filecoin network ledger => some (network, ledger)

/-- The ledger that was registered last for an EVM chain. -/
def lastEvm? (rs : List Registration) (chain : EvmChain) : Option (Ledger EvmAddress 256) :=
  (rs.filterMap evm?).reverse.lookup chain

/-- The ledger that was registered last for a Filecoin network. -/
def lastFilecoin? (rs : List Registration) (network : FilNetwork) : Option (Ledger FilAddress 64) :=
  (rs.filterMap filecoin?).reverse.lookup network

end Registration

section

variable {κ α : Type} [DecidableEq κ] {k : κ}

theorem exists_lookup_reverse_iff {es : List (κ × α)} :
    (∃ a, es.reverse.lookup k = some a) ↔ ∃ a, (k, a) ∈ es := by
  rw [← Option.isSome_iff_exists, ← not_iff_not, Option.not_isSome_iff_eq_none,
    List.lookup_eq_none_iff]
  simp only [List.mem_reverse, bne_iff_ne, ne_eq, Prod.forall, not_exists]
  constructor
  · rintro h a hmem
    exact h k a hmem rfl
  · rintro h k' a hmem rfl
    exact h a hmem

/-- What is entered last under a chain is found. -/
theorem Directory.get?_foldl_put {id : κ → ChainId} (hid : ∀ k k', id k = id k' ↔ k = k')
    (es : List (κ × α)) (k : κ) :
    (es.foldl (fun d e => d.put (id e.1) e.2) Directory.empty).get? (id k)
      = es.reverse.lookup k := by
  induction es using List.reverseRecOn with
  | nil => rfl
  | append_singleton es e ih =>
    rw [List.foldl_concat, Directory.get?_put, List.reverse_concat, lookup_cons_eq, ih]
    by_cases h : k = e.1
    · rw [if_pos ((hid k e.1).2 h), if_pos h]
    · rw [if_neg (mt (hid k e.1).1 h), if_neg h]

end

namespace Registration

variable {rs : List Registration} {chain : EvmChain} {network : FilNetwork}

theorem evm?_eq_some_iff {r : Registration} {ledger : Ledger EvmAddress 256} :
    evm? r = some (chain, ledger) ↔ r = evm chain ledger := by
  cases r <;> simp [evm?]

theorem filecoin?_eq_some_iff {r : Registration} {ledger : Ledger FilAddress 64} :
    filecoin? r = some (network, ledger) ↔ r = filecoin network ledger := by
  cases r <;> simp [filecoin?]

theorem exists_lastEvm?_iff :
    (∃ ledger, lastEvm? rs chain = some ledger) ↔ ∃ ledger, evm chain ledger ∈ rs := by
  rw [lastEvm?, exists_lookup_reverse_iff]
  simp only [List.mem_filterMap, evm?_eq_some_iff, exists_eq_right]

theorem exists_lastFilecoin?_iff :
    (∃ ledger, lastFilecoin? rs network = some ledger) ↔
      ∃ ledger, filecoin network ledger ∈ rs := by
  rw [lastFilecoin?, exists_lookup_reverse_iff]
  simp only [List.mem_filterMap, filecoin?_eq_some_iff, exists_eq_right]

end Registration

open Registration

namespace LedgerSet

variable {s : LedgerSet} {rs : List Registration}

/-- Enters a registered ledger. -/
def register (s : LedgerSet) : Registration → LedgerSet
  | .evm chain ledger => s.withEvm chain ledger
  | .filecoin network ledger => s.withFilecoin network ledger

/-- The ledgers that were registered in turn. -/
def ofRegistrations (rs : List Registration) : LedgerSet := rs.foldl register empty

/-- The families do not meddle with each other. -/
theorem evm_foldl_register : (rs.foldl register s).evm
    = (rs.filterMap evm?).foldl (fun d e => d.put e.1.id e.2) s.evm := by
  induction rs generalizing s with
  | nil => rfl
  | cons r rs ih => cases r <;> exact ih

@[inherit_doc evm_foldl_register]
theorem filecoin_foldl_register : (rs.foldl register s).filecoin
    = (rs.filterMap filecoin?).foldl (fun d e => d.put e.1.id e.2) s.filecoin := by
  induction rs generalizing s with
  | nil => rfl
  | cons r rs ih => cases r <;> exact ih

/-- The ledger of a chain is the one that was registered last. -/
theorem get?_evm (rs : List Registration) (chain : EvmChain) :
    (ofRegistrations rs).evm.get? chain.id = lastEvm? rs chain := by
  rw [ofRegistrations, evm_foldl_register]
  exact Directory.get?_foldl_put (fun _ _ => EvmChain.id_inj) _ chain

@[inherit_doc get?_evm]
theorem get?_filecoin (rs : List Registration) (network : FilNetwork) :
    (ofRegistrations rs).filecoin.get? network.id = lastFilecoin? rs network := by
  rw [ofRegistrations, filecoin_foldl_register]
  exact Directory.get?_foldl_put (fun _ _ => FilNetwork.id_inj) _ network

end LedgerSet

/-! ### What a chain needs -/

/-- Whether the URL is that of a web server. -/
def Url.IsHttp (u : Url) : Prop := u.scheme = "http" ∨ u.scheme = "https"

instance (u : Url) : Decidable u.IsHttp := inferInstanceAs (Decidable (_ ∨ _))

theorem Url.isWeb_iff {u : Url} : u.isWeb = true ↔ u.IsHttp := by
  simp [isWeb, IsHttp]

/-- Whether a text can be sent in a header: of the control characters it may have tabs. -/
def IsHeaderText (s : String) : Prop := ∀ c ∈ s.toList, c = '\t' ∨ ' ' ≤ c ∧ c ≠ '\x7f'

theorem isHeaderText_iff {s : String} :
    s.toList.all FilecoinSource.isHeaderChar = true ↔ IsHeaderText s := by
  simp [IsHeaderText, FilecoinSource.isHeaderChar]

theorem Endpoint.isShut_iff {e : Endpoint} : e.isShut = true ↔ e.rateLimit = some 0 := by
  have hzero : (0 : Unsigned 32).val = 0 := Nat.zero_mod _
  rw [isShut]
  cases e.rateLimit with
  | none => simp
  | some n => simp [Unsigned.ext_iff, hzero]

namespace ChainConfig

variable {rs : List Registration} {c : ChainConfig} {e : RegistryError} {t : ChainTracker}

/-- Whether a ledger of the family is registered for the chain. -/
def HasLedger (rs : List Registration) : ChainConfig → Prop
  | evm chain _ => ∃ ledger, Registration.evm chain ledger ∈ rs
  | filecoin network _ => ∃ ledger, Registration.filecoin network ledger ∈ rs

/-- Whether an EVM chain has a node on the web, or the node of a Filecoin network is on the web and
    its token can be sent. -/
def IsReachable : ChainConfig → Prop
  | evm _ settings => ∃ n ∈ settings.endpoints, n.url.IsHttp
  | filecoin _ settings => settings.endpoint.url.IsHttp ∧ ∀ t ∈ settings.token, IsHeaderText t

/-- Whether every node that would be asked allows requests. -/
def AllowsRequests : ChainConfig → Prop
  | evm _ settings => ∀ n ∈ settings.endpoints, n.url.IsHttp → n.rateLimit ≠ some 0
  | filecoin _ settings => settings.endpoint.rateLimit ≠ some 0

/-- Whether the chain has all that it needs. -/
def IsReady (rs : List Registration) (c : ChainConfig) : Prop :=
  c.HasLedger rs ∧ c.IsReachable ∧ c.AllowsRequests

/-- The tracker of a chain: it asks the nodes as they are configured, and decides over the ledger
    that was registered last. -/
inductive IsTrackedBy (rs : List Registration) : ChainConfig → ChainTracker → Prop where
  | evm {chain settings ledger} (h : lastEvm? rs chain = some ledger) :
    IsTrackedBy rs (.evm chain settings)
      (.evm ⟨chain, settings.endpoints.filter (·.url.isWeb), settings.blockTag⟩ (.new ledger))
  | filecoin {network settings ledger} (h : lastFilecoin? rs network = some ledger) :
    IsTrackedBy rs (.filecoin network settings)
      (.filecoin ⟨network, settings.endpoint, settings.token⟩ (.new ledger))

/-- Why the nodes of a chain cannot be asked. -/
inductive SourceFails : ChainConfig → SourceFault → Prop where
  | evmNoEndpoint {chain settings} (h : ∀ n ∈ settings.endpoints, ¬ n.url.IsHttp) :
    SourceFails (.evm chain settings) (.noEndpoint chain.id)
  | evmZeroLimit {chain settings n} (hn : n ∈ settings.endpoints) (hweb : n.url.IsHttp)
    (hlimit : n.rateLimit = some 0) : SourceFails (.evm chain settings) .zeroLimit
  | filNoEndpoint {network settings} (hweb : ¬ settings.endpoint.url.IsHttp) :
    SourceFails (.filecoin network settings) (.noEndpoint network.id)
  | filBadToken {network settings t} (hweb : settings.endpoint.url.IsHttp)
    (ht : t ∈ settings.token) (hbad : ¬ IsHeaderText t) :
    SourceFails (.filecoin network settings) .badToken
  | filZeroLimit {network settings} (hweb : settings.endpoint.url.IsHttp)
    (htoken : ∀ t ∈ settings.token, IsHeaderText t)
    (hlimit : settings.endpoint.rateLimit = some 0) :
    SourceFails (.filecoin network settings) .zeroLimit

/-- Why a chain has no tracker.  The ledger is missed first. -/
inductive FailsWith (rs : List Registration) (c : ChainConfig) : RegistryError → Prop where
  | missingLedger (h : ¬ c.HasLedger rs) : FailsWith rs c (.missingLedger c.id)
  | source {fault} (h : c.HasLedger rs) (hfault : c.SourceFails fault) :
    FailsWith rs c (.source fault)

/-- A chain is ready, or there is a reason why it is not. -/
theorem isReady_or_failsWith (rs : List Registration) (c : ChainConfig) :
    c.IsReady rs ∨ ∃ e, c.FailsWith rs e := by
  by_cases hledger : c.HasLedger rs
  · have hsource : c.IsReachable ∧ c.AllowsRequests ∨ ∃ fault, c.SourceFails fault := by
      cases c with
      | evm chain settings =>
        by_cases hweb : ∃ n ∈ settings.endpoints, n.url.IsHttp
        · by_cases hzero : ∃ n ∈ settings.endpoints, n.url.IsHttp ∧ n.rateLimit = some 0
          · obtain ⟨n, hn, hn', hlimit⟩ := hzero
            exact .inr ⟨_, .evmZeroLimit hn hn' hlimit⟩
          · exact .inl ⟨hweb, fun n hn hn' hlimit => hzero ⟨n, hn, hn', hlimit⟩⟩
        · exact .inr ⟨_, .evmNoEndpoint fun n hn hn' => hweb ⟨n, hn, hn'⟩⟩
      | filecoin network settings =>
        by_cases hweb : settings.endpoint.url.IsHttp
        · by_cases htoken : ∀ t ∈ settings.token, IsHeaderText t
          · by_cases hlimit : settings.endpoint.rateLimit = some 0
            · exact .inr ⟨_, .filZeroLimit hweb htoken hlimit⟩
            · exact .inl ⟨⟨hweb, htoken⟩, hlimit⟩
          · obtain ⟨t, htoken⟩ := not_forall.1 htoken
            obtain ⟨ht, hbad⟩ := Classical.not_imp.1 htoken
            exact .inr ⟨_, .filBadToken hweb ht hbad⟩
        · exact .inr ⟨_, .filNoEndpoint hweb⟩
    rcases hsource with hready | ⟨fault, hfault⟩
    · exact .inl ⟨hledger, hready⟩
    · exact .inr ⟨_, .source hledger hfault⟩
  · exact .inr ⟨_, .missingLedger hledger⟩

end ChainConfig

/-! ### One chain -/

theorem EvmSource.ofSettings_of_fails {chain : EvmChain} {settings : EvmSettings}
    {fault : SourceFault} (h : (ChainConfig.evm chain settings).SourceFails fault) :
    ofSettings chain settings = .error fault := by
  rw [ofSettings]
  cases h with
  | evmNoEndpoint h =>
    have hnone : settings.endpoints.filter (fun n => n.url.isWeb) = [] :=
      List.filter_eq_nil_iff.2 fun n hn => mt Url.isWeb_iff.1 (h n hn)
    simp only [hnone]
    rfl
  | @evmZeroLimit _ _ n hn hweb hlimit =>
    have hmem : n ∈ settings.endpoints.filter (fun n => n.url.isWeb) :=
      List.mem_filter.2 ⟨hn, Url.isWeb_iff.2 hweb⟩
    exact if_pos (List.any_eq_true.2 ⟨n, hmem, Endpoint.isShut_iff.2 hlimit⟩)

theorem EvmSource.ofSettings_of_ready {chain : EvmChain} {settings : EvmSettings}
    (hreach : (ChainConfig.evm chain settings).IsReachable)
    (hallow : (ChainConfig.evm chain settings).AllowsRequests) :
    ofSettings chain settings
      = .ok ⟨chain, settings.endpoints.filter (·.url.isWeb), settings.blockTag⟩ := by
  have hshut : ¬ (settings.endpoints.filter fun n => n.url.isWeb).any Endpoint.isShut = true := by
    intro h
    obtain ⟨n, hn, hshut⟩ := List.any_eq_true.1 h
    obtain ⟨hn, hweb⟩ := List.mem_filter.1 hn
    exact hallow n hn (Url.isWeb_iff.1 hweb) (Endpoint.isShut_iff.1 hshut)
  have hsome : ¬ (settings.endpoints.filter fun n => n.url.isWeb).isEmpty = true := by
    rw [List.isEmpty_iff, List.filter_eq_nil_iff]
    intro h
    obtain ⟨n, hn, hweb⟩ := hreach
    exact h n hn (Url.isWeb_iff.2 hweb)
  rw [ofSettings]
  exact (if_neg hshut).trans (if_neg hsome)

theorem FilecoinSource.token_iff {token : Option String} :
    token.any (fun t => !t.toList.all isHeaderChar) = true ↔ ∃ t ∈ token, ¬ IsHeaderText t := by
  simp only [Option.any_eq_true, Bool.not_eq_true', Bool.eq_false_iff, ne_eq, isHeaderText_iff]
  rfl

theorem FilecoinSource.ofSettings_of_fails {network : FilNetwork} {settings : FilecoinSettings}
    {fault : SourceFault} (h : (ChainConfig.filecoin network settings).SourceFails fault) :
    ofSettings network settings = .error fault := by
  rw [ofSettings]
  cases h with
  | filNoEndpoint hweb => exact if_pos (Bool.eq_false_iff.2 (mt Url.isWeb_iff.1 hweb))
  | filBadToken hweb ht hbad =>
    rw [if_neg (by simp [Url.isWeb_iff.2 hweb])]
    exact if_pos (token_iff.2 ⟨_, ht, hbad⟩)
  | filZeroLimit hweb htoken hlimit =>
    rw [if_neg (by simp [Url.isWeb_iff.2 hweb]), if_neg, if_pos (Endpoint.isShut_iff.2 hlimit)]
    intro h
    obtain ⟨t, ht, hbad⟩ := token_iff.1 h
    exact hbad (htoken t ht)

theorem FilecoinSource.ofSettings_of_ready {network : FilNetwork} {settings : FilecoinSettings}
    (hreach : (ChainConfig.filecoin network settings).IsReachable)
    (hallow : (ChainConfig.filecoin network settings).AllowsRequests) :
    ofSettings network settings = .ok ⟨network, settings.endpoint, settings.token⟩ := by
  obtain ⟨hweb, htoken⟩ := hreach
  rw [ofSettings, if_neg (by simp [Url.isWeb_iff.2 hweb]), if_neg,
    if_neg (mt Endpoint.isShut_iff.1 hallow)]
  intro h
  obtain ⟨t, ht, hbad⟩ := token_iff.1 h
  exact hbad (htoken t ht)

namespace ChainTracker

variable {rs : List Registration} {c : ChainConfig} {e : RegistryError} {t : ChainTracker}

theorem ofConfig_of_ready (h : c.IsReady rs) :
    ∃ t, ofConfig (.ofRegistrations rs) c = .ok t ∧ c.IsTrackedBy rs t := by
  obtain ⟨hledger, hreach, hallow⟩ := h
  cases c with
  | evm chain settings =>
    obtain ⟨ledger, hlast⟩ := exists_lastEvm?_iff.2 hledger
    have hfound := (LedgerSet.get?_evm rs chain).trans hlast
    have hsource := EvmSource.ofSettings_of_ready hreach hallow
    refine ⟨_, bind_eq_ok_iff.2 ⟨ledger, elim_eq_ok_iff.2 hfound, ?_⟩, .evm hlast⟩
    exact bind_eq_ok_iff.2 ⟨_, mapError_eq_ok_iff.2 hsource, rfl⟩
  | filecoin network settings =>
    obtain ⟨ledger, hlast⟩ := exists_lastFilecoin?_iff.2 hledger
    have hfound := (LedgerSet.get?_filecoin rs network).trans hlast
    have hsource := FilecoinSource.ofSettings_of_ready hreach hallow
    refine ⟨_, bind_eq_ok_iff.2 ⟨ledger, elim_eq_ok_iff.2 hfound, ?_⟩, .filecoin hlast⟩
    exact bind_eq_ok_iff.2 ⟨_, mapError_eq_ok_iff.2 hsource, rfl⟩

theorem ofConfig_of_fails (h : c.FailsWith rs e) :
    ofConfig (.ofRegistrations rs) c = .error e := by
  cases c with
  | evm chain settings =>
    rw [ofConfig, LedgerSet.get?_evm]
    cases h with
    | missingLedger h =>
      have hnone : lastEvm? rs chain = none := by
        rw [Option.eq_none_iff_forall_ne_some]
        exact fun ledger hlast => h (exists_lastEvm?_iff.1 ⟨ledger, hlast⟩)
      rw [hnone]
      rfl
    | source h hfault =>
      obtain ⟨ledger, hlast⟩ := exists_lastEvm?_iff.2 h
      rw [hlast, EvmSource.ofSettings_of_fails hfault]
      rfl
  | filecoin network settings =>
    rw [ofConfig, LedgerSet.get?_filecoin]
    cases h with
    | missingLedger h =>
      have hnone : lastFilecoin? rs network = none := by
        rw [Option.eq_none_iff_forall_ne_some]
        exact fun ledger hlast => h (exists_lastFilecoin?_iff.1 ⟨ledger, hlast⟩)
      rw [hnone]
      rfl
    | source h hfault =>
      obtain ⟨ledger, hlast⟩ := exists_lastFilecoin?_iff.2 h
      rw [hlast, FilecoinSource.ofSettings_of_fails hfault]
      rfl

/-- A chain has a tracker exactly if it is ready. -/
theorem exists_ofConfig_iff : (∃ t, ofConfig (.ofRegistrations rs) c = .ok t) ↔ c.IsReady rs := by
  constructor
  · rintro ⟨t, ht⟩
    rcases c.isReady_or_failsWith rs with hready | ⟨e, hfails⟩
    · exact hready
    · rw [ofConfig_of_fails hfails] at ht
      cases ht
  · intro hready
    obtain ⟨t, ht, -⟩ := ofConfig_of_ready hready
    exact ⟨t, ht⟩

theorem isTrackedBy_of_ofConfig (h : ofConfig (.ofRegistrations rs) c = .ok t) :
    c.IsTrackedBy rs t := by
  obtain ⟨t', ht', htracked⟩ := ofConfig_of_ready (exists_ofConfig_iff.1 ⟨t, h⟩)
  rw [h, Except.ok.injEq] at ht'
  exact ht' ▸ htracked

theorem ofConfig_eq_error_iff : ofConfig (.ofRegistrations rs) c = .error e ↔ c.FailsWith rs e := by
  refine ⟨fun h => ?_, ofConfig_of_fails⟩
  rcases c.isReady_or_failsWith rs with hready | ⟨e', hfails⟩
  · obtain ⟨t, ht, -⟩ := ofConfig_of_ready hready
    rw [h] at ht
    cases ht
  · rw [ofConfig_of_fails hfails, Except.error.injEq] at h
    exact h ▸ hfails

end ChainTracker

/-! ### All chains -/

namespace Registry

variable {rs : List Registration} {ledgers : LedgerSet} {r r' : Registry} {cs : List ChainConfig}
  {c : ChainConfig} {e : RegistryError} {i : ChainId}

theorem enter_of_ok {t : ChainTracker} (hc : ChainTracker.ofConfig ledgers c = .ok t) :
    enter ledgers r (c :: cs) = enter ledgers ⟨r.trackers.put t.id t⟩ cs := by
  rw [enter, hc]
  rfl

theorem enter_of_error (hc : ChainTracker.ofConfig ledgers c = .error e) :
    enter ledgers r (c :: cs) = .error e := by
  rw [enter, hc]
  rfl

theorem exists_enter_iff : (∃ r', enter ledgers r cs = .ok r') ↔
    ∀ c ∈ cs, ∃ t, ChainTracker.ofConfig ledgers c = .ok t := by
  induction cs generalizing r with
  | nil => exact iff_of_true ⟨r, rfl⟩ fun c hc => absurd hc List.not_mem_nil
  | cons c cs ih =>
    rw [List.forall_mem_cons]
    cases hc : ChainTracker.ofConfig ledgers c with
    | error e => simp [enter_of_error hc]
    | ok t => simp [enter_of_ok hc, ih]

/-- The first chain that fails ends the building, and its error is the error. -/
theorem enter_eq_error_iff : enter ledgers r cs = .error e ↔
    ∃ pre c post, cs = pre ++ c :: post ∧
      (∀ c' ∈ pre, ∃ t, ChainTracker.ofConfig ledgers c' = .ok t) ∧
      ChainTracker.ofConfig ledgers c = .error e := by
  induction cs generalizing r with
  | nil => simp [enter]
  | cons c cs ih =>
    cases hc : ChainTracker.ofConfig ledgers c with
    | error e' =>
      rw [enter_of_error hc, Except.error.injEq]
      constructor
      · rintro rfl
        exact ⟨[], c, cs, rfl, fun c' hc' => absurd hc' List.not_mem_nil, hc⟩
      · rintro ⟨pre, c', post, heq, hpre, hc'⟩
        cases pre with
        | nil =>
          cases heq
          rw [hc, Except.error.injEq] at hc'
          exact hc'
        | cons c'' pre =>
          cases heq
          obtain ⟨t, ht⟩ := hpre c List.mem_cons_self
          rw [hc] at ht
          cases ht
    | ok t =>
      rw [enter_of_ok hc, ih]
      constructor
      · rintro ⟨pre, c', post, rfl, hpre, hc'⟩
        exact ⟨c :: pre, c', post, rfl, List.forall_mem_cons.2 ⟨⟨t, hc⟩, hpre⟩, hc'⟩
      · rintro ⟨pre, c', post, heq, hpre, hc'⟩
        cases pre with
        | nil =>
          cases heq
          rw [hc] at hc'
          cases hc'
        | cons c'' pre =>
          cases heq
          exact ⟨pre, c', post, rfl, (List.forall_mem_cons.1 hpre).2, hc'⟩

theorem exists_build_iff :
    (∃ r, build (.ofRegistrations rs) cs = .ok r) ↔ ∀ c ∈ cs, c.IsReady rs := by
  rw [build, exists_enter_iff]
  simp only [ChainTracker.exists_ofConfig_iff]

theorem build_eq_error_iff : build (.ofRegistrations rs) cs = .error e ↔
    ∃ pre c post, cs = pre ++ c :: post ∧ (∀ c' ∈ pre, c'.IsReady rs) ∧ c.FailsWith rs e := by
  rw [build, enter_eq_error_iff]
  simp only [ChainTracker.exists_ofConfig_iff, ChainTracker.ofConfig_eq_error_iff]

theorem isSome_tracker?_iff : (r.tracker? i).isSome ↔ i ∈ r.ids := by
  rw [tracker?, Directory.get?, List.lookup_isSome_iff, ids, Directory.ids, List.mem_map]
  refine exists_congr fun p => and_congr_right' ?_
  rw [beq_iff_eq, eq_comm]

theorem isSome_tracker?_build_iff (h : build ledgers cs = .ok r) :
    (r.tracker? i).isSome ↔ i ∈ cs.map ChainConfig.id := by
  rw [isSome_tracker?_iff, mem_ids_enter h]
  exact or_iff_right List.not_mem_nil

/-- An identifier has a last chain. -/
theorem exists_last_of_mem (h : i ∈ cs.map ChainConfig.id) :
    ∃ pre c post, cs = pre ++ c :: post ∧ c.id = i ∧ c.id ∉ post.map ChainConfig.id := by
  induction cs with
  | nil => cases h
  | cons c cs ih =>
    by_cases hcs : i ∈ cs.map ChainConfig.id
    · obtain ⟨pre, c', post, rfl, hid, hlast⟩ := ih hcs
      exact ⟨c :: pre, c', post, rfl, hid, hlast⟩
    · have hid : i = c.id := (List.mem_cons.1 h).resolve_right hcs
      exact ⟨[], c, cs, rfl, hid.symm, hid ▸ hcs⟩

/-- The tracker that is found under an identifier is that of a chain of this identifier. -/
theorem exists_of_tracker?_build {t : ChainTracker} (h : build ledgers cs = .ok r)
    (ht : r.tracker? i = some t) :
    ∃ c ∈ cs, c.id = i ∧ ChainTracker.ofConfig ledgers c = .ok t := by
  have hi : i ∈ cs.map ChainConfig.id :=
    (isSome_tracker?_build_iff h).1 (Option.isSome_iff_exists.2 ⟨t, ht⟩)
  obtain ⟨pre, c, post, rfl, hid, hlast⟩ := exists_last_of_mem hi
  obtain ⟨t', ht', hfound⟩ := tracker?_build h hlast
  rw [hid, ht, Option.some.injEq] at hfound
  exact ⟨c, List.mem_append_right pre List.mem_cons_self, hid, hfound ▸ ht'⟩

/-- What becomes of building a registry of the chains `cs`, over the ledgers that were
    registered. -/
structure BuildsAs (rs : List Registration) (cs : List ChainConfig)
    (outcome : Except RegistryError Registry) : Prop where
  /-- There is a registry exactly if every chain has what it needs. -/
  succeeds_iff : (∃ r, outcome = .ok r) ↔
    ∀ c ∈ cs, c.HasLedger rs ∧ c.IsReachable ∧ c.AllowsRequests
  /-- It has a tracker for the identifiers of the chains, and for no other. -/
  found_iff : ∀ r, outcome = .ok r → ∀ i, (r.tracker? i).isSome ↔ i ∈ cs.map ChainConfig.id
  /-- A tracker is found under its own identifier. -/
  id_eq : ∀ r, outcome = .ok r → ∀ i t, r.tracker? i = some t → t.id = i
  /-- It is the tracker of the last chain of that identifier. -/
  tracker_of_last : ∀ r, outcome = .ok r → ∀ pre c post, cs = pre ++ c :: post →
    c.id ∉ post.map ChainConfig.id → ∃ t, r.tracker? c.id = some t ∧ c.IsTrackedBy rs t
  /-- There is one tracker for each identifier. -/
  size_eq : ∀ r, outcome = .ok r → r.size = (cs.map ChainConfig.id).dedup.length
  /-- Otherwise the first chain that is not ready says why there is no registry. -/
  fails_iff : ∀ e, outcome = .error e ↔
    ∃ pre c post, cs = pre ++ c :: post ∧ (∀ c' ∈ pre, c'.IsReady rs) ∧ c.FailsWith rs e

/-- **Building a registry.**  Ledgers may be registered and chains listed in any order and again and
    again. -/
theorem build_of_registrations (rs : List Registration) (cs : List ChainConfig) :
    BuildsAs rs cs (build (.ofRegistrations rs) cs) where
  succeeds_iff := exists_build_iff
  found_iff r hr i := isSome_tracker?_build_iff hr
  id_eq r hr i t ht := by
    obtain ⟨c, -, rfl, hc⟩ := exists_of_tracker?_build hr ht
    exact ChainTracker.id_of_ofConfig hc
  tracker_of_last r hr pre c post hcs hlast := by
    subst hcs
    obtain ⟨t, ht, hfound⟩ := tracker?_build hr hlast
    exact ⟨t, hfound, ChainTracker.isTrackedBy_of_ofConfig ht⟩
  size_eq r hr := size_build hr
  fails_iff e := build_eq_error_iff

/-- An EVM chain whose only node is on the web and allows no requests. -/
def shut : ChainConfig := .evm ⟨1⟩ ⟨[⟨(Config.node 1).url, some 0⟩], .latest⟩

/-- A ledger and a node on the web are not enough: the throttle does not stand for a limit of
    zero. -/
theorem build_shut :
    shut.HasLedger [.evm ⟨1⟩ .empty] ∧ shut.IsReachable ∧
      build (.ofRegistrations [.evm ⟨1⟩ .empty]) [shut] = .error (.source .zeroLimit) := by
  have hledger : shut.HasLedger [.evm ⟨1⟩ .empty] := ⟨.empty, List.mem_cons_self⟩
  have hreach : shut.IsReachable := ⟨_, List.mem_cons_self, .inl rfl⟩
  exact ⟨hledger, hreach, rfl⟩

end Registry

end NonceAllocation
