import NonceAllocation.Proofs.Chain.Reference
import NonceAllocation.Proofs.Config.Chain
import NonceAllocation.Proofs.Json.Structure

namespace NonceAllocation

/-!
# Settings — which documents hold them

Endpoints and the settings of either family are structures of two fields, the second of which may be
missing.

* `Url.decode_eq_ok_iff`, `BlockTag.decode_eq_ok_iff`, `FilecoinSettings.decodeToken_eq_ok_iff` —
  the values of fields;
* `Endpoint.decode_eq_ok_iff`, `EvmSettings.decode_eq_ok_iff`, `FilecoinSettings.decode_eq_ok_iff` —
  the documents that hold an endpoint or settings, and what they hold;
* `ChainConfig.Holds`, `ChainConfig.decode_iff_holds` — the documents that configure a chain.
-/

open Decoder

variable {env : Environment} {d : Document}

/-! ### Values of fields -/

theorem Url.decode_eq_ok_iff {u : Url} :
    decode d = .ok u ↔ ∃ text s, d = .string text ∧ text.read = .ok s ∧ read s = .ok u := by
  rw [decode, bind_eq_ok_iff]
  simp only [mapError_eq_ok_iff]
  cases d with
  | string text => simp [textAs]
  | _ => simp [textAs]

theorem BlockTag.decode_eq_ok_iff {t : BlockTag} : decode d = .ok t ↔ IsName d t.name := by
  have hname : ∀ v ∈ all, ∀ w ∈ all, name v = name w → v = w := by decide
  have hmem : t ∈ all := by cases t <;> decide
  rw [decode, enum_eq_ok_iff hname]
  exact and_iff_right hmem

/-- A value that may be left out by writing `null`. -/
theorem Decoder.option_eq_ok_iff {α : Type} {decode : Decoder α} {x : Option α} :
    option decode d = .ok x ↔
      d = .null ∧ x = none ∨ d ≠ .null ∧ ∃ a, decode d = .ok a ∧ x = some a := by
  by_cases hd : d = .null
  · subst hd
    simp [option, eq_comm]
  · rw [option_of_ne_null hd, map_eq_ok_iff]
    simp [hd, eq_comm]

/-! ### Endpoints and settings -/

/-- An endpoint has the text of a URL, and may have a number of 32 bits or `null`. -/
theorem Endpoint.decode_eq_ok_iff {e : Endpoint} :
    decode d = .ok e ↔
      ∃ limit, IsStructure "http" "rate_limit" Url.decode (option (unsigned 32)) d e.url limit ∧
        e.rateLimit = limit.join := by
  have hseeks : Members.Seeks Fields.step Fields.mk "http" "rate_limit" Url.decode
      (option (unsigned 32)) :=
    { ne := by decide
      step_first := fun _ _ _ => rfl
      step_second := fun _ _ _ => rfl
      step_other := fun s key d hfirst hsecond => by
        unfold Fields.step
        split <;> first | contradiction | rfl }
  rw [structure_eq_ok_iff (fun url limit => Endpoint.mk url limit.join) Fields.url Fields.rateLimit
    hseeks (fun _ _ => ⟨rfl, rfl⟩) (fun d => by cases d <;> rfl)]
  constructor
  · rintro ⟨url, limit, h, rfl⟩
    exact ⟨limit, h, rfl⟩
  · rintro ⟨limit, h, hlimit⟩
    exact ⟨e.url, limit, h, by rw [← hlimit]⟩

/-- The settings of an EVM chain have a list of endpoints, and may have a tag. -/
theorem EvmSettings.decode_eq_ok_iff {settings : EvmSettings} :
    decode d = .ok settings ↔
      ∃ tag, IsStructure "rpc" "block_tag" (list Endpoint.decode) BlockTag.decode d
        settings.endpoints tag ∧ settings.blockTag = tag.getD .default := by
  have hseeks : Members.Seeks Fields.step Fields.mk "rpc" "block_tag" (list Endpoint.decode)
      BlockTag.decode :=
    { ne := by decide
      step_first := fun _ _ _ => rfl
      step_second := fun _ _ _ => rfl
      step_other := fun s key d hfirst hsecond => by
        unfold Fields.step
        split <;> first | contradiction | rfl }
  rw [structure_eq_ok_iff (fun endpoints tag => EvmSettings.mk endpoints (tag.getD .default))
    Fields.endpoints Fields.blockTag hseeks (fun _ _ => ⟨rfl, rfl⟩) (fun d => by cases d <;> rfl)]
  constructor
  · rintro ⟨endpoints, tag, h, rfl⟩
    exact ⟨tag, h, rfl⟩
  · rintro ⟨tag, h, htag⟩
    exact ⟨settings.endpoints, tag, h, by rw [← htag]⟩

namespace FilecoinSettings

/-- A token is `null` for none, or a text that the environment may resolve. -/
theorem decodeToken_eq_ok_iff {token : Option String} :
    decodeToken env d = .ok token ↔
      d = .null ∧ token = none ∨
        d ≠ .null ∧ ∃ t, Setting.text.decode env d = .ok t ∧ token = some t :=
  option_eq_ok_iff

/-- The settings of a Filecoin network have one endpoint, and may have a token. -/
theorem decode_eq_ok_iff {settings : FilecoinSettings} :
    decode env d = .ok settings ↔
      ∃ token, IsStructure "rpc" "auth_token" Endpoint.decode (decodeToken env) d settings.endpoint
        token ∧ settings.token = token.join := by
  have hseeks : Members.Seeks (Fields.step env) Fields.mk "rpc" "auth_token" Endpoint.decode
      (decodeToken env) :=
    { ne := by decide
      step_first := fun _ _ _ => rfl
      step_second := fun _ _ _ => rfl
      step_other := fun s key d hfirst hsecond => by
        unfold Fields.step
        split <;> first | contradiction | rfl }
  rw [structure_eq_ok_iff (fun endpoint token => FilecoinSettings.mk endpoint token.join)
    Fields.endpoint Fields.token hseeks (fun _ _ => ⟨rfl, rfl⟩) (fun d => by cases d <;> rfl)]
  constructor
  · rintro ⟨endpoint, token, h, rfl⟩
    exact ⟨token, h, rfl⟩
  · rintro ⟨token, h, htoken⟩
    exact ⟨settings.endpoint, token, h, by rw [← htoken]⟩

end FilecoinSettings

/-! ### Chains -/

namespace ChainConfig

variable {k : ChainId} {c : ChainConfig}

/-- Whether a document holds the settings of the chain that `k` names, and which chain it makes. -/
inductive Holds (env : Environment) (k : ChainId) (d : Document) : ChainConfig → Prop where
  /-- An EVM chain has at least one endpoint, and the default tag if none is named. -/
  | evm {chain endpoints tag} (hchain : EvmChain.ofId k = .ok chain) (hsome : endpoints ≠ [])
      (h : IsStructure "rpc" "block_tag" (list Endpoint.decode) BlockTag.decode d endpoints tag) :
      Holds env k d (.evm chain ⟨endpoints, tag.getD .default⟩)
  /-- The node of a Filecoin network has no token if none is named, or `null` is. -/
  | filecoin {network endpoint token} (hnetwork : FilNetwork.ofId k = .ok network)
      (h : IsStructure "rpc" "auth_token" Endpoint.decode (FilecoinSettings.decodeToken env) d
        endpoint token) :
      Holds env k d (.filecoin network ⟨endpoint, token.join⟩)

/-- **What a chain is configured by.**  A document configures a chain exactly if it holds settings
    of the chain's family, and the chain has just those. -/
theorem decode_iff_holds : decode env k d = .ok c ↔ Holds env k d c := by
  rw [decode_eq_ok_iff]
  constructor
  · intro h
    cases h with
    | @evm chain settings _ hsettings hsome hchain =>
      obtain ⟨endpoints, blockTag⟩ := settings
      obtain ⟨tag, hholds, rfl⟩ := EvmSettings.decode_eq_ok_iff.1 hsettings
      exact .evm hchain hsome hholds
    | @filecoin network settings _ hsettings hnetwork =>
      obtain ⟨endpoint, token⟩ := settings
      obtain ⟨token, hholds, rfl⟩ := FilecoinSettings.decode_eq_ok_iff.1 hsettings
      exact .filecoin hnetwork hholds
  · intro h
    cases h with
    | @evm chain endpoints tag hchain hsome h =>
      obtain ⟨hfamily, -⟩ := EvmChain.ofId_eq_ok_iff.1 hchain
      exact .evm hfamily (EvmSettings.decode_eq_ok_iff.2 ⟨tag, h, rfl⟩) hsome hchain
    | @filecoin network endpoint token hnetwork h =>
      obtain ⟨hfamily, -⟩ := FilNetwork.ofId_eq_ok_iff.1 hnetwork
      exact .filecoin hfamily (FilecoinSettings.decode_eq_ok_iff.2 ⟨token, h, rfl⟩) hnetwork

end ChainConfig

end NonceAllocation
