import NonceAllocation.Config
import NonceAllocation.Proofs.Json.Decode

namespace NonceAllocation

/-!
# Chains as they are configured — what a value may hold

A value is decoded under the identifier of its chain, which says how.

* `ChainConfig.Accepts` — the chain that a value configures under an identifier;
* `ChainConfig.Rejects` — what is wrong with a value, in the order in which it is looked at;
* `ChainConfig.decode_eq_ok_iff`, `ChainConfig.decode_eq_error_iff` — the decoder tells just that;
* `Config.decodeMembers_more_of`, `Config.decodeMembers_more_iff` — a chain and those behind it.
-/

variable {env : Environment}

namespace ChainConfig

variable {k : ChainId} {d : Document}

/-- The chain that a value configures under the identifier `k`. -/
inductive Accepts (env : Environment) (k : ChainId) (d : Document) : ChainConfig → Prop where
  | evm {chain settings} (hfamily : k.family = evmName)
      (hsettings : EvmSettings.decode d = .ok settings) (hendpoints : settings.endpoints ≠ [])
      (hchain : EvmChain.ofId k = .ok chain) : Accepts env k d (.evm chain settings)
  | filecoin {network settings} (hfamily : k.family = filecoinName)
      (hsettings : FilecoinSettings.decode env d = .ok settings)
      (hnetwork : FilNetwork.ofId k = .ok network) : Accepts env k d (.filecoin network settings)

/-- Why a value configures no chain under the identifier `k`.  The family is looked at first, then
    the value, then whether it names a node, and the reference last. -/
inductive Rejects (env : Environment) (k : ChainId) (d : Document) : DecodeError → Prop where
  | otherFamily (hevm : k.family ≠ evmName) (hfilecoin : k.family ≠ filecoinName) :
      Rejects env k d (.refused ("Unexpected namespace: " ++ k.family))
  | evmSettings {e} (hfamily : k.family = evmName) (hsettings : EvmSettings.decode d = .error e) :
      Rejects env k d e
  | noEndpoint {settings} (hfamily : k.family = evmName)
      (hsettings : EvmSettings.decode d = .ok settings) (hempty : settings.endpoints = []) :
      Rejects env k d (.refused ("No rpc endpoint configured for " ++ k.text))
  | evmReference {settings fault} (hfamily : k.family = evmName)
      (hsettings : EvmSettings.decode d = .ok settings) (hendpoints : settings.endpoints ≠ [])
      (hchain : EvmChain.ofId k = .error fault) : Rejects env k d (.refused fault.message)
  | filecoinSettings {e} (hfamily : k.family = filecoinName)
      (hsettings : FilecoinSettings.decode env d = .error e) : Rejects env k d e
  | filecoinReference {settings fault} (hfamily : k.family = filecoinName)
      (hsettings : FilecoinSettings.decode env d = .ok settings)
      (hnetwork : FilNetwork.ofId k = .error fault) : Rejects env k d (.refused fault.message)

theorem ne_evmName_of_filecoin (h : k.family = filecoinName) : k.family ≠ evmName := by
  rw [h]
  decide

theorem decode_eq_ok_iff {c : ChainConfig} : decode env k d = .ok c ↔ Accepts env k d c := by
  rw [decode]
  constructor
  · intro h
    split at h
    · rename_i hfamily
      obtain ⟨settings, hsettings, h⟩ := bind_eq_ok_iff.1 h
      obtain ⟨hsome, h⟩ := guard_eq_ok_iff.1 h
      obtain ⟨chain, hchain, h⟩ := bind_eq_ok_iff.1 h
      cases h
      exact .evm hfamily hsettings (mt List.isEmpty_iff.2 hsome) (mapError_eq_ok_iff.1 hchain)
    · split at h
      · rename_i hfamily
        obtain ⟨settings, hsettings, h⟩ := bind_eq_ok_iff.1 h
        obtain ⟨network, hnetwork, h⟩ := bind_eq_ok_iff.1 h
        cases h
        exact .filecoin hfamily hsettings (mapError_eq_ok_iff.1 hnetwork)
      · cases h
  · intro h
    cases h with
    | evm hfamily hsettings hendpoints hchain =>
      rw [if_pos hfamily]
      refine bind_eq_ok_iff.2 ⟨_, hsettings, ?_⟩
      refine guard_eq_ok_iff.2 ⟨mt List.isEmpty_iff.1 hendpoints, ?_⟩
      exact bind_eq_ok_iff.2 ⟨_, mapError_eq_ok_iff.2 hchain, rfl⟩
    | filecoin hfamily hsettings hnetwork =>
      rw [if_neg (ne_evmName_of_filecoin hfamily), if_pos hfamily]
      refine bind_eq_ok_iff.2 ⟨_, hsettings, ?_⟩
      exact bind_eq_ok_iff.2 ⟨_, mapError_eq_ok_iff.2 hnetwork, rfl⟩

theorem decode_eq_error_iff {e : DecodeError} : decode env k d = .error e ↔ Rejects env k d e := by
  rw [decode]
  constructor
  · intro h
    -- Each stage is reached only if those before it passed.
    split at h
    · rename_i hfamily
      rcases bind_eq_error_iff.1 h with hsettings | ⟨settings, hsettings, h⟩
      · exact .evmSettings hfamily hsettings
      rcases guard_eq_error_iff.1 h with ⟨hempty, rfl⟩ | ⟨hsome, h⟩
      · exact .noEndpoint hfamily hsettings (List.isEmpty_iff.1 hempty)
      rcases bind_eq_error_iff.1 h with hchain | ⟨chain, -, h⟩
      · obtain ⟨fault, hfault, rfl⟩ := mapError_eq_error_iff.1 hchain
        exact .evmReference hfamily hsettings (mt List.isEmpty_iff.2 hsome) hfault
      · cases h
    · rename_i hevm
      split at h
      · rename_i hfamily
        rcases bind_eq_error_iff.1 h with hsettings | ⟨settings, hsettings, h⟩
        · exact .filecoinSettings hfamily hsettings
        rcases bind_eq_error_iff.1 h with hnetwork | ⟨network, -, h⟩
        · obtain ⟨fault, hfault, rfl⟩ := mapError_eq_error_iff.1 hnetwork
          exact .filecoinReference hfamily hsettings hfault
        · cases h
      · rename_i hfilecoin
        cases h
        exact .otherFamily hevm hfilecoin
  · intro h
    cases h with
    | otherFamily hevm hfilecoin => rw [if_neg hevm, if_neg hfilecoin]
    | evmSettings hfamily hsettings =>
      rw [if_pos hfamily]
      exact bind_eq_error_iff.2 (.inl hsettings)
    | noEndpoint hfamily hsettings hempty =>
      rw [if_pos hfamily]
      refine bind_eq_error_iff.2 (.inr ⟨_, hsettings, ?_⟩)
      exact guard_eq_error_iff.2 (.inl ⟨List.isEmpty_iff.2 hempty, rfl⟩)
    | evmReference hfamily hsettings hendpoints hchain =>
      rw [if_pos hfamily]
      refine bind_eq_error_iff.2 (.inr ⟨_, hsettings, ?_⟩)
      refine guard_eq_error_iff.2 (.inr ⟨mt List.isEmpty_iff.1 hendpoints, ?_⟩)
      exact bind_eq_error_iff.2 (.inl (mapError_eq_error_iff.2 ⟨_, hchain, rfl⟩))
    | filecoinSettings hfamily hsettings =>
      rw [if_neg (ne_evmName_of_filecoin hfamily), if_pos hfamily]
      exact bind_eq_error_iff.2 (.inl hsettings)
    | filecoinReference hfamily hsettings hnetwork =>
      rw [if_neg (ne_evmName_of_filecoin hfamily), if_pos hfamily]
      refine bind_eq_error_iff.2 (.inr ⟨_, hsettings, ?_⟩)
      exact bind_eq_error_iff.2 (.inl (mapError_eq_error_iff.2 ⟨_, hnetwork, rfl⟩))

end ChainConfig

/-! ### One chain after the other -/

namespace Config

variable {seen : List ChainId} {key : Scanned String} {name : String} {c : ChainId}
  {value : Document} {raw : String} {rest : Members} {chains : List ChainConfig}

/-- A member whose key is a text, and those behind it. -/
theorem decodeMembers_more (hname : key.read = .ok name) :
    decodeMembers env seen (.more key value raw rest) = (do
      let c ← (ChainId.read name).mapError fun e => .refused e.message
      if c ∈ seen then .error (.refused ("Duplicate chain: " ++ c.text))
      let chain ← ChainConfig.decode env c value
      let chains ← decodeMembers env (c :: seen) rest
      .ok (chain :: chains)) := by
  rw [decodeMembers, hname]
  rfl

/-- A chain is decoded under the identifier that its key spells, if that was not seen before. -/
theorem decodeMembers_more_of (hname : key.read = .ok name) (hc : ChainId.read name = .ok c)
    (hseen : c ∉ seen) :
    decodeMembers env seen (.more key value raw rest) = (do
      let chain ← ChainConfig.decode env c value
      let chains ← decodeMembers env (c :: seen) rest
      .ok (chain :: chains)) := by
  rw [decodeMembers_more hname, hc]
  exact if_neg hseen

theorem decodeMembers_more_iff :
    decodeMembers env seen (.more key value raw rest) = .ok chains ↔
      ∃ name c chain chains', key.read = .ok name ∧ ChainId.read name = .ok c ∧ c ∉ seen ∧
        ChainConfig.decode env c value = .ok chain ∧
        decodeMembers env (c :: seen) rest = .ok chains' ∧ chains = chain :: chains' := by
  constructor
  · intro h
    -- The key, its identifier, the look at those before it, the chain, and the rest.
    obtain ⟨name, hname, h⟩ := bind_eq_ok_iff.1 h
    obtain ⟨c, hc, h⟩ := bind_eq_ok_iff.1 h
    obtain ⟨hseen, h⟩ := guard_eq_ok_iff.1 h
    obtain ⟨chain, hchain, h⟩ := bind_eq_ok_iff.1 h
    obtain ⟨chains', hchains, h⟩ := bind_eq_ok_iff.1 h
    cases h
    exact ⟨name, c, chain, chains', checked_eq_ok_iff.1 hname, mapError_eq_ok_iff.1 hc, hseen,
      hchain, hchains, rfl⟩
  · rintro ⟨name, c, chain, chains', hname, hc, hseen, hchain, hchains, rfl⟩
    rw [decodeMembers_more_of hname hc hseen]
    exact bind_eq_ok_iff.2 ⟨chain, hchain, bind_eq_ok_iff.2 ⟨chains', hchains, rfl⟩⟩

end Config

end NonceAllocation
