import NonceAllocation.Proofs.Config.Exchange
import NonceAllocation.Proofs.Config.Listing
import NonceAllocation.Proofs.Config.Resolution

namespace NonceAllocation

/-!
# Variables — on which of them a configuration depends

Of all that a configuration holds only the tokens are resolved, so two environments in which the
tokens are read alike are one to it.

* `Environment.set` — an environment with one variable more;
* `Environment.get?_set_self`, `Environment.get?_set_of_not` — what is found in it, and what is
  found as before;
* `Config.Place` — where the URLs and the tokens are in a configuration;
* `Config.decode_of_alike` — a configuration is read alike if its tokens are.
-/

namespace Environment

variable {env env' : Environment} {name name' value : String} {cs front rest : List Char}

/-! ### One variable more -/

/-- The environment in which a variable has a value, whatever it was before. -/
def set (env : Environment) (name value : String) : Environment := ⟨(name, value) :: env.bindings⟩

theorem behind?_eq_some_iff : behind? front cs = some rest ↔ cs = front ++ rest := by
  induction front generalizing cs with
  | nil => simp [behind?]
  | cons f fs ih =>
    cases cs with
    | nil => simp [behind?]
    | cons c cs =>
      rw [behind?, List.cons_append, List.cons.injEq]
      by_cases hc : f = c
      · rw [if_pos hc, ih, and_iff_right hc.symm]
      · rw [if_neg hc]
        simp [Ne.symm hc]

/-- Whether the entry of `name` can be met where `name'` is looked up: an entry is a name, an equals
    sign and a value, so that a name may reach into the value of another one. -/
def Touches (name name' : String) : Prop := name' = name ∨ ∃ s, name' = name ++ "=" ++ s

theorem touches_iff :
    Touches name name' ↔ name.toList ++ ['='] <+: name'.toList ++ ['='] := by
  rw [List.prefix_concat_iff, List.append_cancel_right_eq, String.toList_inj, Touches, eq_comm]
  refine or_congr_right ⟨?_, ?_⟩
  · rintro ⟨s, rfl⟩
    exact ⟨s.toList, by simp⟩
  · rintro ⟨s, hs⟩
    exact ⟨String.ofList s, String.toList_inj.1 (by rw [← hs]; simp)⟩

instance (name name' : String) : Decidable (Touches name name') :=
  decidable_of_iff _ touches_iff.symm

theorem not_mem_name {c : Char} (hname : ∀ c ∈ name.toList, isNameChar c = true)
    (hc : isNameChar c = false) : c ∉ name.toList := by
  intro hmem
  rw [hname c hmem] at hc
  cases hc

theorem get?_set_self (hname : ∀ c ∈ name.toList, isNameChar c = true) :
    (env.set name value).get? name = some value := by
  have hbehind : behind? (name.toList ++ ['=']) (name.toList ++ '=' :: value.toList)
      = some value.toList := behind?_eq_some_iff.2 (by simp)
  rw [get?, if_neg (not_mem_name hname (by decide +kernel)), entries, set, List.map_cons,
    List.findSome?_cons, hbehind]
  simp

theorem get?_set_of_not (hname : ∀ c ∈ name.toList, isNameChar c = true)
    (h : ¬ Touches name name') : (env.set name value).get? name' = env.get? name' := by
  have hnone : behind? (name'.toList ++ ['=']) (name.toList ++ '=' :: value.toList) = none := by
    refine Option.eq_none_iff_forall_ne_some.2 fun rest hrest => ?_
    have hentry := behind?_eq_some_iff.1 hrest
    -- Of two beginnings of one entry one is a beginning of the other.
    have hset : name.toList ++ ['='] <+: name.toList ++ '=' :: value.toList :=
      ⟨value.toList, by simp⟩
    have hlooked : name'.toList ++ ['='] <+: name.toList ++ '=' :: value.toList :=
      ⟨rest, hentry.symm⟩
    rcases List.prefix_or_prefix_of_prefix hset hlooked with hprefix | hprefix
    · exact h (touches_iff.2 hprefix)
    · -- Up to its equals sign an entry holds no name but its own.
      rcases List.prefix_concat_iff.1 hprefix with heq | hinside
      · exact h (touches_iff.2 (heq ▸ List.prefix_rfl))
      · have hmem : '=' ∈ name.toList := hinside.subset (by simp)
        exact not_mem_name hname (by decide +kernel) hmem
  rw [get?, get?, entries, set, List.map_cons, List.findSome?_cons, hnone]
  rfl

/-- A text is decoded alike if the variable that it refers to has the same value. -/
theorem decode_of_alike {α : Type} {read : String → Except String α} {d : Document}
    (h : ∀ raw name, Decoder.text d = .ok raw → References raw name →
      env'.get? name = env.get? name) :
    env'.decode read d = env.decode read d := by
  cases hd : Decoder.text d with
  | error e =>
    rw [decode, decode, hd]
    rfl
  | ok raw =>
    by_cases hraw : IsReference raw
    · obtain ⟨name, hname⟩ := hraw
      rw [decode_of_reference hd hname, decode_of_reference hd hname, h raw name hd hname]
    · rw [decode_of_literal hd hraw, decode_of_literal hd hraw]

end Environment

/-! ### The values that tokens are read as -/

variable {env env' : Environment} {d x : Document}

namespace FilecoinSettings

variable {settings : FilecoinSettings} {s : Fields} {key raw name value : String}

/-- Whether a value is read as the same token in two environments. -/
def Alike (env env' : Environment) (x : Document) : Prop := decodeToken env' x = decodeToken env x

/-- A token is read alike if the variable that it refers to has the same value. -/
theorem alike_of_get?
    (h : ∀ raw name, Decoder.text x = .ok raw → Environment.References raw name →
      env'.get? name = env.get? name) : Alike env env' x := by
  have hdecode : Setting.text.decode env' x = Setting.text.decode env x :=
    Environment.decode_of_alike h
  by_cases hx : x = .null
  · subst hx
    rfl
  · rw [Alike, decodeToken, decodeToken, Decoder.option_of_ne_null hx, Decoder.option_of_ne_null hx,
      hdecode]

theorem decodeToken_of_decode (h : Setting.text.decode env x = .ok value) :
    decodeToken env x = .ok (some value) := by
  have hx : x ≠ .null := by
    rintro rfl
    cases h
  rw [decodeToken, Decoder.option_of_ne_null hx, h]
  rfl

theorem decodeToken_of_literal (hx : Decoder.text x = .ok raw)
    (hraw : ¬ Environment.IsReference raw) : decodeToken env x = .ok (some raw) :=
  decodeToken_of_decode (Environment.decode_of_literal hx hraw)

theorem decodeToken_of_reference (hx : Decoder.text x = .ok raw)
    (hraw : Environment.References raw name) (hvalue : env.get? name = some value) :
    decodeToken env x = .ok (some value) := by
  refine decodeToken_of_decode ((Environment.decode_of_reference hx hraw).trans ?_)
  rw [hvalue]
  rfl

theorem takes_token (env : Environment) :
    Members.Takes (Fields.step env) "auth_token" Fields.token (decodeToken env) where
  named s d s' h := by
    obtain ⟨token, htoken, rfl⟩ := map_eq_ok_iff.1 h
    exact Decoder.once_eq_ok_iff.1 htoken
  other s key d s' hkey h := by
    unfold Fields.step at h
    split at h
    · obtain ⟨endpoint, -, rfl⟩ := map_eq_ok_iff.1 h
      rfl
    · exact absurd rfl hkey
    · rw [(Decoder.ignored_eq_ok_iff.1 h).2]

theorem Fields.step_of_alike {t : Fields} (hd : Alike env env' d)
    (h : step env s "auth_token" d = .ok t) : step env' s "auth_token" d = .ok t := by
  obtain ⟨_, htoken, rfl⟩ := map_eq_ok_iff.1 h
  obtain ⟨hnone, token, hdecode, rfl⟩ := Decoder.once_eq_ok_iff.1 htoken
  exact map_eq_ok_iff.2 ⟨_, Decoder.once_eq_ok_iff.2 ⟨hnone, token, hd.trans hdecode, rfl⟩, rfl⟩

theorem Fields.step_of_ne (h : key ≠ "auth_token") : step env' s key d = step env s key d := by
  unfold step
  split
  · rfl
  · exact absurd rfl h
  · rfl

/-- Of the settings only the token is looked up. -/
theorem decode_of_alike
    (halike : ∀ f x, f.IsField "auth_token" 1 → d.follow? f = some x → Alike env env' x)
    (h : decode env d = .ok settings) : decode env' d = .ok settings := by
  unfold decode at h ⊢
  split at h
  · rename_i ms
    obtain ⟨t, ht, hsettings⟩ := bind_eq_ok_iff.1 h
    refine bind_eq_ok_iff.2 ⟨t, ?_, hsettings⟩
    refine (takes_token env).collect_of_alike (fun _ _ _ => Fields.step_of_alike)
      (fun _ _ _ => Fields.step_of_ne) (fun _ x hx => ?_) ht
    exact halike (.member "auth_token") x (.inl rfl) hx
  · obtain ⟨⟨endpoint, is⟩, hendpoint, hsettings⟩ := bind_eq_ok_iff.1 h
    obtain ⟨first, rfl, -⟩ := Items.required_eq_ok hendpoint
    refine bind_eq_ok_iff.2 ⟨(endpoint, is), hendpoint, ?_⟩
    have htoken : is.optional (decodeToken env') = is.optional (decodeToken env) := by
      cases is with
      | done ending => rfl
      | more x rest =>
        have hx : decodeToken env' x = decodeToken env x := halike (.item 1) x (.inr rfl) rfl
        rw [Items.optional, hx]
        rfl
    show (is.optional (decodeToken env') >>= _) = _
    rw [htoken]
    exact hsettings
  · cases h

end FilecoinSettings

open FilecoinSettings (Alike)

/-- A chain is read alike if its token is. -/
theorem ChainConfig.decode_of_alike {c : ChainId} {chain : ChainConfig}
    (halike : ∀ path x, Place c.family .token path → d.at? path = some x → Alike env env' x)
    (h : decode env c d = .ok chain) : decode env' c d = .ok chain := by
  cases decode_eq_ok_iff.1 h with
  | evm hfamily hsettings hendpoints hchain =>
    exact decode_eq_ok_iff.2 (.evm hfamily hsettings hendpoints hchain)
  | filecoin hfamily hsettings hnetwork =>
    refine decode_eq_ok_iff.2 (.filecoin hfamily ?_ hnetwork)
    refine FilecoinSettings.decode_of_alike (fun f x hf hx => ?_) hsettings
    exact halike [f] x (hfamily ▸ .token hf) ((d.at?_singleton f).trans hx)

namespace Config

open ChainConfig (Secret)

/-- The places of the URLs and the token of a chain in a configuration that lists it. -/
inductive Place (secret : Secret) (c : ChainId) : Path → Prop where
  | chain {f : PathStep} {key : String} {path : Path} (hf : f.IsField "chains" 0)
      (hkey : ChainId.read key = .ok c) (hplace : ChainConfig.Place c.family secret path) :
    Place secret c (f :: .member key :: path)

variable {seen : List ChainId} {ms : Members} {chains : List ChainConfig} {config : Config}

theorem decodeMembers_of_alike
    (halike : ∀ key c v path x, ChainId.read key = .ok c → c ∉ seen → ms.value? key = some v →
      ChainConfig.Place c.family .token path → v.at? path = some x → Alike env env' x)
    (h : decodeMembers env seen ms = .ok chains) : decodeMembers env' seen ms = .ok chains := by
  induction ms using Members.induction generalizing seen chains with
  | done ending => exact h
  | more key value raw rest ih =>
    obtain ⟨name, c, chain, chains', hname, hc, hseen, hchain, hchains, rfl⟩ :=
      decodeMembers_more_iff.1 h
    refine decodeMembers_more_iff.2 ⟨name, c, chain, chains', hname, hc, hseen, ?_, ?_, rfl⟩
    · refine ChainConfig.decode_of_alike (fun path x hplace hx => ?_) hchain
      exact halike name c value path x hc hseen (Members.value?_of_eq hname) hplace hx
    · refine ih (fun key' c' v path x hc' hseen' hv => ?_) hchains
      -- A chain that is not seen yet has another key.
      obtain ⟨hne, hseen'⟩ := not_or.1 (mt List.mem_cons.2 hseen')
      have hkey : key.read ≠ .ok key' := by
        intro hkey'
        cases hname.symm.trans hkey'
        exact hne (Except.ok.inj (hc'.symm.trans hc))
      exact halike key' c' v path x hc' hseen' ((Members.value?_of_ne hkey).trans hv)

/-- The chains are read alike if their tokens are. -/
theorem decodeChains_of_alike
    (halike : ∀ key c path x, ChainId.read key = .ok c → ChainConfig.Place c.family .token path →
      d.at? (.member key :: path) = some x → Alike env env' x)
    (h : decodeChains env d = .ok chains) : decodeChains env' d = .ok chains := by
  unfold decodeChains at h ⊢
  split at h
  · refine decodeMembers_of_alike (fun key c v path x hc _ hv hplace hx => ?_) h
    exact halike key c path x hc hplace (Option.bind_eq_some_iff.2 ⟨v, hv, hx⟩)
  · cases h

theorem step_of_ne {fields : Option (List ChainConfig)} {key : String} (h : key ≠ "chains") :
    step env' fields key d = step env fields key d := by
  unfold step
  split
  · exact absurd rfl h
  · rfl

theorem step_of_alike {fields fields' : Option (List ChainConfig)}
    (hd : ∀ chains, decodeChains env d = .ok chains → decodeChains env' d = .ok chains)
    (h : step env fields "chains" d = .ok fields') : step env' fields "chains" d = .ok fields' := by
  obtain ⟨hnone, chains, hchains, rfl⟩ := Decoder.once_eq_ok_iff.1 h
  exact Decoder.once_eq_ok_iff.2 ⟨hnone, chains, hd chains hchains, rfl⟩

/-- A configuration is read alike if its tokens are. -/
theorem decode_of_alike
    (halike : ∀ c path x, Place .token c path → d.at? path = some x → Alike env env' x)
    (h : decode env d = .ok config) : decode env' d = .ok config := by
  have hchains : ∀ {f : PathStep} {v : Document} {chains : List ChainConfig},
      f.IsField "chains" 0 → d.follow? f = some v → decodeChains env v = .ok chains →
      decodeChains env' v = .ok chains := by
    intro f v chains hf hv
    refine decodeChains_of_alike fun key c path x hkey hplace hx => ?_
    exact halike c (f :: .member key :: path) x (.chain hf hkey hplace)
      (Option.bind_eq_some_iff.2 ⟨v, hv, hx⟩)
  unfold decode at h ⊢
  split at h
  · rename_i ms
    obtain ⟨t, ht, hconfig⟩ := bind_eq_ok_iff.1 h
    refine bind_eq_ok_iff.2 ⟨t, ?_, hconfig⟩
    refine (takes_chains env).collect_of_alike (fun _ _ _ => step_of_alike)
      (fun _ _ _ => step_of_ne) (fun _ v hv => ?_) ht
    exact fun chains => hchains (.inl rfl) hv
  · rename_i is
    obtain ⟨⟨chains, is'⟩, htaken, hconfig⟩ := bind_eq_ok_iff.1 h
    refine bind_eq_ok_iff.2 ⟨(chains, is'), ?_, hconfig⟩
    cases is with
    | done ending =>
      rw [Items.optional] at htaken ⊢
      exact htaken
    | more v rest =>
      obtain ⟨chains, hdecode, heq⟩ := map_eq_ok_iff.1 htaken
      exact map_eq_ok_iff.2 ⟨chains, hchains (.inr rfl) rfl hdecode, heq⟩
  · cases h

end Config

end NonceAllocation
