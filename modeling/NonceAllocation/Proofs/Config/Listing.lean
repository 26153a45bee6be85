import NonceAllocation.Config
import NonceAllocation.Proofs.Chain.Reference
import NonceAllocation.Proofs.Config.Chain
import NonceAllocation.Proofs.Json.Decode
import NonceAllocation.Proofs.Registry.Build

namespace NonceAllocation

/-!
# Configurations — the keys and the chains that they list

A configuration lists its chains under keys, and no key occurs twice.  A key names a Filecoin
network in one way only, but an EVM chain in many: `eip155:1`, `eip155:01` and `eip155:+1` are one
chain.

* `ChainConfig.IsNamed` — which keys name a configured chain;
* `ChainConfig.id_ne_iff` — two keys name two chains unless they spell one EVM number;
* `Config.keys` — the keys under which a text lists chains;
* `Config.forall₂_of_read` — the chains of a configuration are named by its keys, in their order;
* `Config.distinct_iff_spelledOnce` — when the chains are distinct, and what a registry makes of
  them.
-/

/-! ### Keys and chains -/

/-- The EVM chain that a key names, if it names one. -/
def EvmChain.ofKey? (k : ChainId) : Option EvmChain := (ofId k).toOption

theorem EvmChain.ofKey?_eq_none {k : ChainId} (h : k.family = filecoinName) : ofKey? k = none := by
  rw [ofKey?, ofId, if_neg (ChainConfig.ne_evmName_of_filecoin h)]
  rfl

namespace ChainConfig

/-- Whether a key names the chain. -/
def IsNamed (k : ChainId) : ChainConfig → Prop
  | evm chain _ => EvmChain.ofId k = .ok chain
  | filecoin network _ => FilNetwork.ofId k = .ok network

variable {k k' : ChainId} {c c' : ChainConfig}

theorem isNamed_of_decode {env : Environment} {d : Document} (h : decode env k d = .ok c) :
    IsNamed k c := by
  cases decode_eq_ok_iff.1 h with
  | evm _ _ _ hchain => exact hchain
  | filecoin _ _ hnetwork => exact hnetwork

/-- Two keys name two chains, unless they are two spellings of one EVM number. -/
theorem id_ne_iff (hk : k ≠ k') (h : IsNamed k c) (h' : IsNamed k' c') :
    c.id ≠ c'.id ↔
      ∀ b, EvmChain.ofKey? k = some b → ∀ b', EvmChain.ofKey? k' = some b' → b ≠ b' := by
  cases c with
  | filecoin network settings =>
    -- The key spells no EVM number, and it is the network's only one.
    have hid : network.id = k := FilNetwork.id_of_ofId h
    have hnone : EvmChain.ofKey? k = none := EvmChain.ofKey?_eq_none (hid ▸ rfl)
    rw [hnone]
    refine iff_of_true ?_ (by simp)
    cases c' with
    | filecoin network' settings' =>
      have hid' : network'.id = k' := FilNetwork.id_of_ofId h'
      show network.id ≠ network'.id
      rw [hid, hid']
      exact hk
    | evm chain settings' => exact (chain.id_ne_network network).symm
  | evm chain settings =>
    have hsome : EvmChain.ofKey? k = some chain := by
      rw [EvmChain.ofKey?, show EvmChain.ofId k = .ok chain from h]
      rfl
    cases c' with
    | filecoin network' settings' =>
      have hid' : network'.id = k' := FilNetwork.id_of_ofId h'
      have hnone : EvmChain.ofKey? k' = none := EvmChain.ofKey?_eq_none (hid' ▸ rfl)
      rw [hnone]
      exact iff_of_true (chain.id_ne_network network') (by simp)
    | evm chain' settings' =>
      -- Here alone two keys may name one chain.
      have hsome' : EvmChain.ofKey? k' = some chain' := by
        rw [EvmChain.ofKey?, show EvmChain.ofId k' = .ok chain' from h']
        rfl
      rw [hsome, hsome']
      show chain.id ≠ chain'.id ↔ _
      rw [Ne, EvmChain.id_inj]
      simp

end ChainConfig

/-! ### The keys of a text -/

/-- The chain identifiers among the keys of an object. -/
def Members.chainIds : Members → List ChainId
  | .done _ => []
  | .more key _ _ rest =>
    match (checked key.read).toOption.bind fun k => (ChainId.read k).toOption with
    | some c => c :: rest.chainIds
    | none => rest.chainIds

namespace Config

/-- The document in which a configuration lists its chains. -/
def listing : Document → Option Document
  | .object members => members.value? "chains"
  | .array (.more value _) => some value
  | _ => none

/-- The keys under which a document lists chains. -/
def keysOf (d : Document) : List ChainId :=
  match listing d with
  | some (.object members) => members.chainIds
  | _ => []

/-- The keys under which a text lists chains. -/
def keys (s : String) : List ChainId := keysOf (Document.scan s.toList).1

variable {env : Environment} {members : Members} {seen : List ChainId} {chains : List ChainConfig}

/-- The members of the list are the chains, one for each, and none of their keys was seen before. -/
theorem forall₂_of_decodeMembers (h : decodeMembers env seen members = .ok chains) :
    List.Forall₂ ChainConfig.IsNamed members.chainIds chains ∧ members.chainIds.Nodup ∧
      ∀ c ∈ members.chainIds, c ∉ seen := by
  induction members using Members.induction generalizing seen chains with
  | done ending =>
    obtain ⟨-, -, rfl⟩ := map_eq_ok_iff.1 h
    exact ⟨.nil, List.nodup_nil, fun c hc => absurd hc List.not_mem_nil⟩
  | more key value raw rest ih =>
    obtain ⟨k, c, chain, chains', hk, hc, hseen, hchain, hchains, rfl⟩ := decodeMembers_more_iff.1 h
    have hids : (Members.more key value raw rest).chainIds = c :: rest.chainIds := by
      rw [Members.chainIds, checked_eq_ok_iff.2 hk]
      show (match (ChainId.read k).toOption with
        | some c => c :: rest.chainIds
        | none => rest.chainIds) = _
      rw [hc]
      rfl
    obtain ⟨hnamed, hnodup, hfresh⟩ := ih hchains
    rw [hids]
    refine ⟨.cons (ChainConfig.isNamed_of_decode hchain) hnamed, ?_, ?_⟩
    · -- Behind a key it counts as seen.
      exact List.nodup_cons.2 ⟨fun hmem => hfresh c hmem List.mem_cons_self, hnodup⟩
    · rintro c' hc'
      rcases List.mem_cons.1 hc' with rfl | hc'
      · exact hseen
      · exact fun hs => hfresh c' hc' (List.mem_cons_of_mem _ hs)

theorem takes_chains (env : Environment) :
    Members.Takes (step env) "chains" (fun s => s) (decodeChains env) where
  named s d s' h := Decoder.once_eq_ok_iff.1 h
  other s key d s' hkey h := by
    unfold step at h
    split at h
    · exact absurd rfl hkey
    · exact (Decoder.ignored_eq_ok_iff.1 h).2

theorem forall₂_of_decodeChains {d : Document} (h : decodeChains env d = .ok chains) :
    ∃ members, d = .object members ∧
      List.Forall₂ ChainConfig.IsNamed members.chainIds chains ∧ members.chainIds.Nodup := by
  unfold decodeChains at h
  split at h
  · rename_i members
    obtain ⟨hnamed, hnodup, -⟩ := forall₂_of_decodeMembers h
    exact ⟨members, rfl, hnamed, hnodup⟩
  · cases h

theorem forall₂_of_decode {d : Document} {config : Config} (h : decode env d = .ok config) :
    List.Forall₂ ChainConfig.IsNamed (keysOf d) config.chains ∧ (keysOf d).Nodup := by
  unfold decode at h
  split at h
  · rename_i members
    obtain ⟨after, hafter, hc⟩ := bind_eq_ok_iff.1 h
    cases hc
    -- A configuration without a list has no chains.
    rcases (takes_chains env).of_none rfl hafter with ⟨hnone, rfl⟩ | ⟨d, chains, hd, hchains, rfl⟩
    · rw [keysOf, listing, hnone]
      exact ⟨.nil, List.nodup_nil⟩
    · obtain ⟨members', rfl, hnamed⟩ := forall₂_of_decodeChains hchains
      rw [keysOf, listing, hd]
      exact hnamed
  · rename_i is
    obtain ⟨⟨first, is'⟩, hfirst, h⟩ := bind_eq_ok_iff.1 h
    obtain ⟨-, -, hc⟩ := bind_eq_ok_iff.1 h
    cases hc
    cases is with
    | done ending =>
      obtain ⟨-, -, heq⟩ := map_eq_ok_iff.1 hfirst
      cases heq
      exact ⟨.nil, List.nodup_nil⟩
    | more value rest =>
      obtain ⟨chains, hchains, heq⟩ := map_eq_ok_iff.1 hfirst
      cases heq
      obtain ⟨members', rfl, hnamed⟩ := forall₂_of_decodeChains hchains
      exact hnamed
  · cases h

/-- **Keys and chains.**  A text that holds a configuration lists each chain of it under a key that
    names it, and no key twice. -/
theorem forall₂_of_read {s : String} {config : Config} (h : read env s = .ok config) :
    List.Forall₂ ChainConfig.IsNamed (keys s) config.chains ∧ (keys s).Nodup :=
  forall₂_of_decode (Decoder.eq_ok_of_run h)

/-! ### Distinct chains -/

/-- Whether no EVM chain is spelled in two ways among the keys of a text. -/
def SpelledOnce (s : String) : Prop := ((keys s).filterMap EvmChain.ofKey?).Nodup

instance (s : String) : Decidable (SpelledOnce s) := inferInstanceAs (Decidable (List.Nodup _))

theorem nodup_ids_iff {s : String} {config : Config} (h : read env s = .ok config) :
    (config.chains.map ChainConfig.id).Nodup ↔ SpelledOnce s := by
  obtain ⟨hnamed, hnodup⟩ := forall₂_of_read h
  rw [SpelledOnce, List.Nodup, List.Nodup, List.pairwise_map, List.pairwise_filterMap]
  refine (pairwise_iff_of_forall₂ hnamed hnodup ?_).symm
  intro k k' c c' hk hc hc'
  exact (ChainConfig.id_ne_iff hk hc hc').symm

/-- **When the chains of a configuration are distinct.**  The keys are distinct anyway, and each
    lists one chain.  The chains are distinct exactly when no EVM chain is spelled in two ways.  In
    a registry that is built of them the last chain of an identifier counts; there are as many
    trackers as chains exactly when no EVM chain is spelled in two ways, and then every chain has
    the tracker of its own settings. -/
theorem distinct_iff_spelledOnce {s : String} {config : Config} (h : read env s = .ok config) :
    ((keys s).Nodup ∧ (keys s).length = config.chains.length) ∧
    ((config.chains.map ChainConfig.id).Nodup ↔ SpelledOnce s) ∧
    ∀ (ledgers : LedgerSet) (r : Registry), Registry.build ledgers config.chains = .ok r →
      (r.size = config.chains.length ↔ SpelledOnce s) ∧
      (SpelledOnce s → ∀ c ∈ config.chains,
        ∃ t, ChainTracker.ofConfig ledgers c = .ok t ∧ r.tracker? c.id = some t) ∧
      ∀ pre c post, config.chains = pre ++ c :: post → c.id ∉ post.map ChainConfig.id →
        ∃ t, ChainTracker.ofConfig ledgers c = .ok t ∧ r.tracker? c.id = some t := by
  obtain ⟨hnamed, hnodup⟩ := forall₂_of_read h
  have hiff := nodup_ids_iff h
  refine ⟨⟨hnodup, hnamed.length_eq⟩, hiff, fun ledgers r hr => ⟨?_, ?_, ?_⟩⟩
  · exact (Registry.size_build_eq_iff hr).trans hiff
  · intro honce c hc
    exact Registry.tracker?_build_of_nodup hr (hiff.2 honce) hc
  · intro pre c post hsplit hlast
    rw [hsplit] at hr
    exact Registry.tracker?_build hr hlast

/-- A node on the web, by the last piece of its address. -/
def node (piece : Nat) : Endpoint where
  url := ⟨"http", some (.ofHost (.ipv6 [0, 0, 0, 0, 0, 0, 0, piece])), .segments [""], none, none⟩
  rateLimit := none

/-- An EVM chain with one node. -/
def chainAt (number : Unsigned 64) (piece : Nat) : ChainConfig :=
  .evm ⟨number⟩ ⟨[node piece], .latest⟩

/-- Ledgers without records for two EVM chains. -/
def ledgersFor (c c' : EvmChain) : LedgerSet :=
  (LedgerSet.empty.withEvm c .empty).withEvm c' .empty

/-- Two chains, each under one key. -/
def twoChains : String :=
  "\x7b\"chains\":\x7b\"eip155:1\":\x7b\"rpc\":[[\"http://[::1]\"]]\x7d," ++
    "\"eip155:10\":\x7b\"rpc\":[[\"http://[::2]\"]]\x7d\x7d\x7d"

theorem distinct_iff_spelledOnce_twoChains :
    read ⟨[]⟩ twoChains = .ok ⟨[chainAt 1 1, chainAt 10 2]⟩ ∧
      ([chainAt 1 1, chainAt 10 2].map ChainConfig.id).Nodup ∧
      ∃ r, Registry.build (ledgersFor ⟨1⟩ ⟨10⟩) [chainAt 1 1, chainAt 10 2] = .ok r ∧
        r.size = 2 := by
  have hread : read ⟨[]⟩ twoChains = .ok ⟨[chainAt 1 1, chainAt 10 2]⟩ := by decide +kernel
  have honce : SpelledOnce twoChains := by decide +kernel
  obtain ⟨-, hdistinct, hregistry⟩ := distinct_iff_spelledOnce hread
  obtain ⟨r, hr⟩ : ∃ r, Registry.build (ledgersFor ⟨1⟩ ⟨10⟩) [chainAt 1 1, chainAt 10 2] = .ok r :=
    ⟨_, rfl⟩
  exact ⟨hread, hdistinct.2 honce, r, hr, (hregistry _ r hr).1.2 honce⟩

/-- One chain under two keys. -/
def twoSpellings : String :=
  "\x7b\"chains\":\x7b\"eip155:1\":\x7b\"rpc\":[[\"http://[::1]\"]]\x7d," ++
    "\"eip155:01\":\x7b\"rpc\":[[\"http://[::2]\"]]\x7d\x7d\x7d"

/-- One chain under two keys is accepted, and the registry has one tracker, which asks the second
    node; the first one is lost. -/
theorem one_chain_listed_twice :
    read ⟨[]⟩ twoSpellings = .ok ⟨[chainAt 1 1, chainAt 1 2]⟩ ∧
      ¬ ([chainAt 1 1, chainAt 1 2].map ChainConfig.id).Nodup ∧
      ∃ r, Registry.build (ledgersFor ⟨1⟩ ⟨10⟩) [chainAt 1 1, chainAt 1 2] = .ok r ∧
        r.size = 1 ∧
        r.tracker? ⟨"eip155", "1"⟩ = some (.evm ⟨⟨1⟩, [node 2], .latest⟩ (.new .empty)) := by
  refine ⟨by decide +kernel, by decide, ?_⟩
  exact ⟨⟨⟨[(⟨"eip155", "1"⟩, .evm ⟨⟨1⟩, [node 2], .latest⟩ (.new .empty))]⟩⟩, rfl, rfl, rfl⟩

end Config

end NonceAllocation
