import NonceAllocation.Config
import NonceAllocation.Proofs.Config.Listing
import NonceAllocation.Proofs.Config.Reference
import NonceAllocation.Proofs.Json.Fields

namespace NonceAllocation

/-!
# The configuration as JSON — what is written is read

A configuration is written with the URLs and tokens that it holds, and read with an environment at
hand.  It is read as what it was if no key occurs twice, no EVM chain is without endpoints, no token
is a reference, and the URLs are read from their texts.

* `Endpoint.decode_found`, `EvmSettings.decode_found`, `FilecoinSettings.decode_found` — the
  settings;
* `ChainConfig.decode_found` — a chain, under its own identifier;
* `Config.decodeMembers_found` — the list of chains, none of them seen before;
* `Config.read_written` — the configuration.
-/

/-! ### Chain identifiers -/

/-- The identifier of a configured chain is read from its text. -/
theorem ChainConfig.read_id (c : ChainConfig) : ChainId.read c.id.text = .ok c.id := by
  cases c with
  | evm chain settings => exact chain.read_id
  | filecoin network settings => exact network.read_id

/-! ### Settings -/

theorem Url.decode_found {u : Url} (h : read u.text = .ok u) :
    decode (Json.string u.text).found = .ok u :=
  bind_eq_ok_iff.2 ⟨u.text, rfl, mapError_eq_ok_iff.2 h⟩

theorem BlockTag.decode_found (t : BlockTag) : decode t.json.found = .ok t := by
  cases t <;> rfl

open Members

theorem Endpoint.decode_found {e : Endpoint} (h : Url.read e.url.text = .ok e.url) :
    decode e.json.found = .ok e := by
  have hfields : ∃ members, e.json = .object members ∧
      (Json.foundMembers members).collect Fields.step {}
        = .ok ⟨some e.url, e.rateLimit.map some⟩ := by
    refine ⟨_, rfl, ?_⟩
    rw [collect_found]
    refine Eq.trans (collect_required (fun _ => rfl) (Url.decode_found h)) ?_
    exact collect_optional (fun _ => rfl) rfl fun n _ => Decoder.unsigned_found (by decide) n
  obtain ⟨members, hjson, hmembers⟩ := hfields
  rw [hjson, Json.found, decode, hmembers]
  show Except.ok (Endpoint.mk e.url (e.rateLimit.map some).join) = .ok e
  rw [join_map_some]

theorem EvmSettings.decode_found {s : EvmSettings}
    (h : ∀ e ∈ s.endpoints, Url.read e.url.text = .ok e.url) : decode s.json.found = .ok s := by
  have hendpoints : Decoder.list Endpoint.decode (Json.array (s.endpoints.map Endpoint.json)).found
      = .ok s.endpoints :=
    Decoder.list_found fun e he => Endpoint.decode_found (h e he)
  have hfields : (Json.foundMembers [("rpc", Json.array (s.endpoints.map Endpoint.json)),
      ("block_tag", s.blockTag.json)]).collect Fields.step {}
        = .ok ⟨some s.endpoints, some s.blockTag⟩ := by
    have hwalk := collect_found Fields.step {}
      [some ("rpc", Json.array (s.endpoints.map Endpoint.json)),
        some ("block_tag", s.blockTag.json)]
    refine Eq.trans hwalk (Eq.trans (collect_required (fun _ => rfl) hendpoints) ?_)
    exact collect_required (fun _ => rfl) s.blockTag.decode_found
  rw [json, Json.found, decode, hfields]
  rfl

theorem FilecoinSettings.decode_found {s : FilecoinSettings} (env : Environment)
    (hurl : Url.read s.endpoint.url.text = .ok s.endpoint.url)
    (htoken : ∀ t ∈ s.token, ¬ Environment.IsReference t) : decode env s.json.found = .ok s := by
  have hliteral : ∀ t ∈ s.token, Setting.text.decode env (Json.string t).found = .ok t := by
    intro t ht
    refine bind_eq_ok_iff.2 ⟨t, Decoder.text_found t, ?_⟩
    exact bind_eq_ok_iff.2 ⟨t, mapError_eq_ok_iff.2 (env.resolve_of_literal (htoken t ht)), rfl⟩
  have hfields : ∃ members, s.json = .object members ∧
      (Json.foundMembers members).collect (Fields.step env) {}
        = .ok ⟨some s.endpoint, s.token.map some⟩ := by
    refine ⟨_, rfl, ?_⟩
    rw [collect_found]
    refine Eq.trans (collect_required (fun _ => rfl) (Endpoint.decode_found hurl)) ?_
    exact collect_optional (fun _ => rfl) rfl hliteral
  obtain ⟨members, hjson, hmembers⟩ := hfields
  rw [hjson, Json.found, decode, hmembers]
  show Except.ok (FilecoinSettings.mk s.endpoint (s.token.map some).join) = .ok s
  rw [join_map_some]

/-! ### Chains -/

namespace ChainConfig

/-- The nodes that a chain is configured with. -/
def endpoints : ChainConfig → List Endpoint
  | evm _ settings => settings.endpoints
  | filecoin _ settings => [settings.endpoint]

/-- The token that a chain is configured with. -/
def token : ChainConfig → Option String
  | evm _ _ => none
  | filecoin _ settings => settings.token

variable {c : ChainConfig}

/-- A chain is decoded from its settings, under its own identifier. -/
theorem decode_found (env : Environment) (hendpoints : c.endpoints ≠ [])
    (htoken : ∀ t ∈ c.token, ¬ Environment.IsReference t)
    (hurls : ∀ e ∈ c.endpoints, Url.read e.url.text = .ok e.url) :
    decode env c.id c.settingsJson.found = .ok c := by
  cases c with
  | evm chain settings =>
    have hsettings : EvmSettings.decode settings.json.found = .ok settings :=
      EvmSettings.decode_found hurls
    exact decode_eq_ok_iff.2 (.evm rfl hsettings hendpoints chain.ofId_id)
  | filecoin network settings =>
    have hurl := hurls settings.endpoint List.mem_cons_self
    have hsettings : FilecoinSettings.decode env settings.json.found = .ok settings :=
      FilecoinSettings.decode_found env hurl htoken
    exact decode_eq_ok_iff.2 (.filecoin rfl hsettings network.ofId_id)

end ChainConfig

/-! ### The configuration -/

namespace Config

/-- The member that a chain is written as. -/
def member (c : ChainConfig) : String × Json := (c.id.text, c.settingsJson)

/-- Chains are decoded from their members if each is, and none has the identifier of one before. -/
theorem decodeMembers_found {env : Environment} {seen : List ChainId} {cs : List ChainConfig}
    (hdecode : ∀ c ∈ cs, ChainConfig.decode env c.id c.settingsJson.found = .ok c)
    (hdistinct : (cs.map ChainConfig.id).Nodup) (hseen : ∀ c ∈ cs, c.id ∉ seen) :
    decodeMembers env seen (Json.foundMembers (cs.map member)) = .ok cs := by
  induction cs generalizing seen with
  | nil => rfl
  | cons c cs ih =>
    obtain ⟨hc, hcs⟩ := List.forall_mem_cons.1 hdecode
    obtain ⟨hfresh, hdistinct⟩ := List.nodup_cons.1 hdistinct
    obtain ⟨hcSeen, hcsSeen⟩ := List.forall_mem_cons.1 hseen
    have hrest : decodeMembers env (c.id :: seen) (Json.foundMembers (cs.map member)) = .ok cs := by
      refine ih hcs hdistinct fun c' hc' hmem => ?_
      rcases List.mem_cons.1 hmem with heq | hmem
      · exact hfresh (heq ▸ List.mem_map_of_mem hc')
      · exact hcsSeen c' hc' hmem
    rw [List.map_cons, member, Json.foundMembers, decodeMembers]
    -- The key, its identifier, the look at those before it, the chain, and the rest.
    refine bind_eq_ok_iff.2 ⟨c.id.text, rfl, ?_⟩
    refine bind_eq_ok_iff.2 ⟨c.id, mapError_eq_ok_iff.2 c.read_id, ?_⟩
    refine guard_eq_ok_iff.2 ⟨hcSeen, ?_⟩
    refine bind_eq_ok_iff.2 ⟨c, hc, ?_⟩
    exact bind_eq_ok_iff.2 ⟨cs, hrest, rfl⟩

theorem decode_found {env : Environment} {config : Config}
    (h : ∀ c ∈ config.chains, ChainConfig.decode env c.id c.settingsJson.found = .ok c)
    (hdistinct : (config.chains.map ChainConfig.id).Nodup) :
    decode env config.json.found = .ok config := by
  have hchains : decodeChains env (Json.object (config.chains.map member)).found
      = .ok config.chains := by
    rw [Json.found]
    exact decodeMembers_found h hdistinct fun _ _ => List.not_mem_nil
  rw [json, Json.found, decode]
  show (((decodeChains env (Json.object (config.chains.map member)).found).map some
    >>= _) >>= _) = _
  rw [hchains]
  rfl

/-- **The configuration survives JSON**, in any environment: with the same chains in the same
    order. -/
theorem read_written (env : Environment) (config : Config)
    (hdistinct : (config.chains.map ChainConfig.id).Nodup)
    (hendpoints : ∀ c ∈ config.chains, c.endpoints ≠ [])
    (hliteral : ∀ c ∈ config.chains, ∀ t ∈ c.token, ¬ Environment.IsReference t)
    (hurls : ∀ c ∈ config.chains, ∀ e ∈ c.endpoints, Url.read e.url.text = .ok e.url) :
    read env config.json.text = .ok config := by
  rw [read, Decoder.run_text]
  refine decode_found (fun c hc => ?_) hdistinct
  exact ChainConfig.decode_found env (hendpoints c hc) (hliteral c hc) (hurls c hc)

/-- A chain of either family.  The token begins as a reference does, and the variable is there. -/
def mixed : Config where
  chains := [
    .filecoin .testnet ⟨node 3, some "$TOKEN-\"1\""⟩,
    .evm ⟨137⟩ ⟨[⟨(node 1).url, some 5⟩, node 2], .pending⟩]

theorem read_written_mixed :
    read ⟨[("TOKEN", "secret")]⟩ mixed.json.text = .ok mixed :=
  read_written _ mixed (by decide) (by decide) (by decide +kernel) (by decide +kernel)

end Config

end NonceAllocation
