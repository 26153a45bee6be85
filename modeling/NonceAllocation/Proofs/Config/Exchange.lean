import NonceAllocation.Config
import NonceAllocation.Proofs.Config.Chain
import NonceAllocation.Proofs.Json.Exchange

namespace NonceAllocation

/-!
# Exchanges in a configuration — which values are looked at, and what becomes of the rest

* `Endpoint.exposes_http`, `EvmSettings.exposes_rpc`, `FilecoinSettings.exposes_rpc` — a fault of a
  URL is a fault of the settings that hold it;
* `FilecoinSettings.decode_of_differ` — another token is all that changes in the settings;
* `ChainConfig.Place` — where the URLs and the token are in what is configured for a chain;
* `ChainConfig.decode_of_url`, `ChainConfig.decode_of_token` — what becomes of the chain;
* `Config.decodeMembers_of_differ`, `Config.decode_of_differ` — what becomes of one chain is what
  becomes of the configuration.
-/

open Document

variable {env : Environment} {R : Document → Document → Prop} {f : PathStep} {d d' x : Document}

/-! ### Fields -/

theorem Endpoint.exposes_http (hf : f.IsField "http" 0) : Decoder.Exposes decode f Url.decode := by
  refine Decoder.Exposes.of_first_field hf (fun _ => rfl) (fun _ _ => rfl) fun d is e he => ?_
  rw [decode, Decoder.required_of_error he]
  rfl

theorem EvmSettings.exposes_rpc (hf : f.IsField "rpc" 0) :
    Decoder.Exposes decode f (Decoder.list Endpoint.decode) := by
  refine Decoder.Exposes.of_first_field hf (fun _ => rfl) (fun _ _ => rfl) fun d is e he => ?_
  rw [decode, Decoder.required_of_error he]
  rfl

namespace FilecoinSettings

theorem exposes_rpc (hf : f.IsField "rpc" 0) : Decoder.Exposes (decode env) f Endpoint.decode := by
  refine Decoder.Exposes.of_first_field hf (fun _ => rfl) (fun _ _ => rfl) fun d is e he => ?_
  rw [decode, Decoder.required_of_error he]
  rfl

variable {settings : FilecoinSettings} {token : Option String}

/-- How the fields differ if the token that was found is another one. -/
def Fields.Retoken (before token : Option String) (s s' : Fields) : Prop :=
  s.token = some before ∧ s' = { s with token := some token }

theorem Fields.step_of_retoken {before : Option String} {s s' t : Fields} {key : String}
    (h : Retoken before token s s') (hstep : step env s key d = .ok t) :
    ∃ t', step env s' key d = .ok t' ∧ Retoken before token t t' := by
  obtain ⟨hbefore, rfl⟩ := h
  unfold step at hstep
  split at hstep
  · obtain ⟨endpoint, hendpoint, rfl⟩ := map_eq_ok_iff.1 hstep
    exact ⟨_, map_eq_ok_iff.2 ⟨endpoint, hendpoint, rfl⟩, hbefore, rfl⟩
  · -- There is only one token.
    obtain ⟨_, htoken, -⟩ := map_eq_ok_iff.1 hstep
    obtain ⟨hnone, -⟩ := Decoder.once_eq_ok_iff.1 htoken
    rw [hbefore] at hnone
    cases hnone
  · rename_i hrpc htoken
    obtain ⟨hd, rfl⟩ := Decoder.ignored_eq_ok_iff.1 hstep
    refine ⟨_, ?_, hbefore, rfl⟩
    unfold step
    split
    · exact absurd rfl hrpc
    · exact absurd rfl htoken
    · exact Decoder.ignored_eq_ok_iff.2 ⟨hd, rfl⟩

/-- Another token in the document is another token in the settings. -/
theorem decode_of_differ (hf : f.IsField "auth_token" 1) (hdiffer : DifferAt R f d d')
    (hR : ∀ v v', R v v' → v = x ∧ decodeToken env v' = .ok token)
    (h : decode env d = .ok settings) :
    decodeToken env x = .ok settings.token ∧ decode env d' = .ok { settings with token } := by
  rcases hf with rfl | rfl
  · obtain ⟨ms, ms', rfl, rfl, hms⟩ := hdiffer
    obtain ⟨t, ht, h⟩ := bind_eq_ok_iff.1 h
    obtain ⟨endpoint, hendpoint, h⟩ := bind_eq_ok_iff.1 h
    cases h
    have hwalk : Turns none (fun t t' => ∃ before, decodeToken env x = .ok before ∧
        Fields.Retoken before token t t') t (ms'.collect (Fields.step env) {}) := by
      refine Members.collect_of_differ hms ?_ ?_ ht
      · intro s v v' t hv hs
        obtain ⟨rfl, hv'⟩ := hR v v' hv
        obtain ⟨after, hafter, rfl⟩ := map_eq_ok_iff.1 hs
        obtain ⟨hnone, before, hbefore, rfl⟩ := Decoder.once_eq_ok_iff.1 hafter
        refine ⟨{ s with token := some token }, map_eq_ok_iff.2 ⟨_, ?_, rfl⟩, before, hbefore, rfl,
          rfl⟩
        exact Decoder.once_eq_ok_iff.2 ⟨hnone, token, hv', rfl⟩
      · rintro - s s' key d t ⟨before, hbefore, hretoken⟩ hs
        obtain ⟨t', ht', hretoken'⟩ := Fields.step_of_retoken hretoken hs
        exact ⟨t', ht', before, hbefore, hretoken'⟩
    obtain ⟨t', ht', before, hbefore, htoken, rfl⟩ := hwalk
    refine ⟨hbefore.trans (by rw [htoken]; rfl), ?_⟩
    exact bind_eq_ok_iff.2 ⟨_, ht', bind_eq_ok_iff.2 ⟨endpoint, hendpoint, rfl⟩⟩
  · obtain ⟨is, is', rfl, rfl, his⟩ := hdiffer
    obtain ⟨⟨endpoint, rest⟩, hendpoint, h⟩ := bind_eq_ok_iff.1 h
    obtain ⟨⟨before, rest'⟩, htoken, h⟩ := bind_eq_ok_iff.1 h
    obtain ⟨_, hclose, h⟩ := bind_eq_ok_iff.1 h
    cases h
    cases his with
    | @behind _ first _ _ his =>
      cases his with
      | @here v v' is hv =>
        obtain ⟨_, heq, hfirst⟩ := Items.required_eq_ok hendpoint
        cases heq
        obtain ⟨_, hbefore, heq⟩ := map_eq_ok_iff.1 htoken
        cases heq
        obtain ⟨rfl, hv'⟩ := hR v v' hv
        refine ⟨hbefore, bind_eq_ok_iff.2 ⟨_, Items.required_more hfirst, ?_⟩⟩
        refine bind_eq_ok_iff.2 ⟨(some token, rest'), map_eq_ok_iff.2 ⟨_, hv', rfl⟩, ?_⟩
        exact bind_eq_ok_iff.2 ⟨_, hclose, rfl⟩

end FilecoinSettings

/-! ### Chains -/

namespace ChainConfig

/-- What a text is configured as. -/
inductive Secret where
  | url
  | token
deriving DecidableEq

/-- The places of URLs and tokens in what is configured for a chain of the family. -/
inductive Place : (family : String) → Secret → Path → Prop where
  | token {f : PathStep} (hf : f.IsField "auth_token" 1) : Place filecoinName .token [f]
  | evmUrl {f f' : PathStep} {i : Nat} (hf : f.IsField "rpc" 0) (hf' : f'.IsField "http" 0) :
    Place evmName .url [f, .item i, f']
  | filecoinUrl {f f' : PathStep} (hf : f.IsField "rpc" 0) (hf' : f'.IsField "http" 0) :
    Place filecoinName .url [f, f']

variable {c : ChainId} {chain : ChainConfig} {path : Path} {x' : Document} {e : DecodeError}

/-- A URL that is refused is why the endpoint is. -/
theorem endpoint_of_url {f' : PathStep} {a : Endpoint} (hf' : f'.IsField "http" 0)
    (hdiffer : Differ x x' [f'] d d') (hx' : Url.decode x' = .error e)
    (h : Endpoint.decode d = .ok a) : Endpoint.decode d' = .error e := by
  refine Endpoint.exposes_http hf' hdiffer ?_ h
  rintro v v' - ⟨rfl, rfl⟩ -
  exact hx'

/-- And why the chain is. -/
theorem decode_of_url (hplace : Place c.family .url path) (hdiffer : Differ x x' path d d')
    (hx' : Url.decode x' = .error e) (h : decode env c d = .ok chain) :
    decode env c d' = .error e := by
  generalize hfamily : c.family = family at hplace
  cases hplace with
  | evmUrl hf hf' =>
    cases decode_eq_ok_iff.1 h with
    | filecoin hfilecoin => exact absurd hfamily (ne_evmName_of_filecoin hfilecoin)
    | evm _ hsettings =>
      refine decode_eq_error_iff.2
        (.evmSettings hfamily (EvmSettings.exposes_rpc hf hdiffer ?_ hsettings))
      intro v v' b hv hb
      refine Decoder.list_exposes _ _ hv ?_ hb
      intro w w' a hw ha
      exact endpoint_of_url hf' hw hx' ha
  | filecoinUrl hf hf' =>
    cases decode_eq_ok_iff.1 h with
    | evm hevm => exact absurd hevm (ne_evmName_of_filecoin hfamily)
    | filecoin _ hsettings =>
      refine decode_eq_error_iff.2
        (.filecoinSettings hfamily (FilecoinSettings.exposes_rpc hf hdiffer ?_ hsettings))
      intro v v' b hv hb
      exact endpoint_of_url hf' hv hx' hb

/-- How the chain that `c` names differs if the token of its node is another one. -/
def Retoken (c : ChainId) (before token : Option String) (chain chain' : ChainConfig) : Prop :=
  ∃ network settings, FilNetwork.ofId c = .ok network ∧ chain = .filecoin network settings ∧
    settings.token = before ∧ chain' = .filecoin network { settings with token }

/-- Another token in the document is another token of the node. -/
theorem decode_of_token {before token : Option String} (hplace : Place c.family .token path)
    (hdiffer : Differ x x' path d d') (hx : FilecoinSettings.decodeToken env x = .ok before)
    (hx' : FilecoinSettings.decodeToken env x' = .ok token) (h : decode env c d = .ok chain) :
    ∃ chain', decode env c d' = .ok chain' ∧ Retoken c before token chain chain' := by
  generalize hfamily : c.family = family at hplace
  cases hplace with
  | token hf =>
    cases decode_eq_ok_iff.1 h with
    | evm hevm => exact absurd hevm (ne_evmName_of_filecoin hfamily)
    | @filecoin network settings _ hsettings hnetwork =>
      have hR : ∀ v v', Differ x x' [] v v' →
          v = x ∧ FilecoinSettings.decodeToken env v' = .ok token := by
        rintro v v' ⟨rfl, rfl⟩
        exact ⟨rfl, hx'⟩
      obtain ⟨hbefore, hsettings'⟩ := FilecoinSettings.decode_of_differ hf hdiffer hR hsettings
      rw [hx] at hbefore
      cases hbefore
      exact ⟨_, decode_eq_ok_iff.2 (.filecoin hfamily hsettings' hnetwork), network, settings,
        hnetwork, rfl, rfl, rfl⟩

end ChainConfig

/-! ### The configuration -/

/-- Whether two lists are the same but for one element, and the two elements there are related. -/
def OneDiffers {α : Type} (Rel : α → α → Prop) (as as' : List α) : Prop :=
  ∃ before a a' after, as = before ++ a :: after ∧ as' = before ++ a' :: after ∧ Rel a a'

theorem OneDiffers.cons {α : Type} {Rel : α → α → Prop} {as as' : List α} (b : α)
    (h : OneDiffers Rel as as') : OneDiffers Rel (b :: as) (b :: as') := by
  obtain ⟨before, a, a', after, rfl, rfl, hrel⟩ := h
  exact ⟨b :: before, a, a', after, rfl, rfl, hrel⟩

namespace Config

variable {seen : List ChainId} {ms ms' : Members} {key : String} {c : ChainId}
  {fault : Option DecodeError} {Rel : ChainConfig → ChainConfig → Prop} {chains : List ChainConfig}

/-- What becomes of a chain becomes of the chains. -/
theorem decodeMembers_of_differ (hkey : ChainId.read key = .ok c) (hdiffer : ms.Differ R key ms')
    (hR : ∀ v v' chain, R v v' → ChainConfig.decode env c v = .ok chain →
      Turns fault Rel chain (ChainConfig.decode env c v'))
    (h : decodeMembers env seen ms = .ok chains) :
    Turns fault (OneDiffers Rel) chains (decodeMembers env seen ms') := by
  induction hdiffer generalizing seen chains with
  | @here k v v' raw raw' rest hk hv =>
    obtain ⟨_, _, chain, chains', hk', hkey', hseen, hchain, hchains, rfl⟩ :=
      decodeMembers_more_iff.1 h
    cases hk.symm.trans hk'
    cases hkey.symm.trans hkey'
    rw [decodeMembers_more_of hk hkey hseen]
    -- The chains behind it have not seen what became of it.
    refine (hR v v' chain hv hchain).bind fun chain' hfault hrel => ?_
    subst hfault
    rw [hchains]
    exact ⟨chain' :: chains', rfl, [], chain, chain', chains', rfl, rfl, hrel⟩
  | @behind k v raw rest rest' hk hdiffer ih =>
    obtain ⟨name, c', chain, chains', hk', hkey', hseen, hchain, hchains, rfl⟩ :=
      decodeMembers_more_iff.1 h
    rw [decodeMembers_more_of hk' hkey' hseen, hchain]
    refine (ih hchains).bind fun chains'' hfault hone => ?_
    subst hfault
    exact ⟨chain :: chains'', rfl, hone.cons chain⟩

theorem decodeChains_of_differ (hkey : ChainId.read key = .ok c)
    (hdiffer : DifferAt R (.member key) d d')
    (hR : ∀ v v' chain, R v v' → ChainConfig.decode env c v = .ok chain →
      Turns fault Rel chain (ChainConfig.decode env c v'))
    (h : decodeChains env d = .ok chains) :
    Turns fault (OneDiffers Rel) chains (decodeChains env d') := by
  obtain ⟨ms, ms', rfl, rfl, hms⟩ := hdiffer
  exact decodeMembers_of_differ hkey hms hR h

/-- What becomes of a chain becomes of the configuration. -/
theorem decode_of_differ {config : Config} (hf : f.IsField "chains" 0)
    (hkey : ChainId.read key = .ok c) (hdiffer : DifferAt (DifferAt R (.member key)) f d d')
    (hR : ∀ v v' chain, R v v' → ChainConfig.decode env c v = .ok chain →
      Turns fault Rel chain (ChainConfig.decode env c v'))
    (h : decode env d = .ok config) :
    Turns fault (fun config config' => OneDiffers Rel config.chains config'.chains) config
      (decode env d') := by
  rcases hf with rfl | rfl
  · obtain ⟨ms, ms', rfl, rfl, hms⟩ := hdiffer
    obtain ⟨t, ht, h⟩ := bind_eq_ok_iff.1 h
    cases h
    have hwalk : Turns fault (fun t t' => ∃ chains chains', t = some chains ∧ t' = some chains' ∧
        OneDiffers Rel chains chains') t (ms'.collect (step env) none) := by
      refine Members.collect_of_differ hms ?_ ?_ ht
      · intro s v v' t hv hs
        obtain ⟨rfl, chains, hchains, rfl⟩ := Decoder.once_eq_ok_iff.1 hs
        exact (decodeChains_of_differ hkey hv hR hchains).map fun chains' hone =>
          ⟨chains, chains', rfl, rfl, hone⟩
      · rintro - s s' name v t ⟨chains, chains', rfl, rfl, hone⟩ hs
        unfold step at hs ⊢
        split at hs
        · -- The list is there only once.
          cases hs
        · rename_i hname
          obtain ⟨hv, rfl⟩ := Decoder.ignored_eq_ok_iff.1 hs
          refine ⟨some chains', ?_, chains, chains', rfl, rfl, hone⟩
          exact Decoder.ignored_eq_ok_iff.2 ⟨hv, rfl⟩
    refine hwalk.bind ?_
    rintro _ rfl ⟨chains, chains', rfl, rfl, hone⟩
    exact ⟨⟨chains'⟩, rfl, hone⟩
  · obtain ⟨is, is', rfl, rfl, his⟩ := hdiffer
    cases his with
    | @here v v' is hv =>
      obtain ⟨⟨_, _⟩, htaken, h⟩ := bind_eq_ok_iff.1 h
      obtain ⟨_, hclose, h⟩ := bind_eq_ok_iff.1 h
      cases h
      obtain ⟨chains, hchains, heq⟩ := map_eq_ok_iff.1 htaken
      cases heq
      have hoptional : Turns fault (fun p p' => p'.2 = p.2 ∧ ∃ chains', p'.1 = some chains' ∧
          OneDiffers Rel chains chains') (some chains, is)
          ((Items.more v' is).optional (decodeChains env)) :=
        (decodeChains_of_differ hkey hv hR hchains).map (f := fun chains => (some chains, is))
          fun chains' hone => ⟨rfl, chains', rfl, hone⟩
      refine hoptional.bind ?_
      rintro ⟨_, _⟩ rfl ⟨rfl, chains', rfl, hone⟩
      exact ⟨⟨chains'⟩, bind_eq_ok_iff.2 ⟨_, hclose, rfl⟩, hone⟩

end Config

end NonceAllocation
