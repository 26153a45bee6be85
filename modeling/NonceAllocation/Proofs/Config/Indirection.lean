import Mathlib.Data.List.DropRight
import NonceAllocation.Proofs.Config.Variables

namespace NonceAllocation

/-!
# Indirection — URLs and tokens that are put into variables

In a text that is accepted a URL or a token is exchanged for a reference to a variable, and the text
is read where this variable has a value.  In the place of a token the value is the token.  In the
place of a URL the reference is taken for the URL, and it is none.

* `Url.decode_of_reference` — a reference is no URL;
* `Config.Exchanges`, `Config.exists_exchanges` — a text in which one string is exchanged;
* `Config.Spares` — a text that does not depend on a variable;
* `Config.decode_of_url`, `Config.decode_of_token` — what becomes of the configuration;
* `Config.Indirection`, `Config.indirection` — when the configuration is the same.
-/

/-! ### References in the place of URLs -/

theorem Environment.References.head {s name : String} (h : References s name) :
    ∃ cs, s.toList = '$' :: cs := by
  obtain ⟨-, rfl | ⟨rfl, -⟩⟩ := h
  · exact ⟨_, by rw [String.append_assoc, String.toList_append]; rfl⟩
  · exact ⟨_, by rw [String.toList_append]; rfl⟩

namespace Url

variable {s : String} {c : Char} {cs : List Char}

/-- A text that begins with something to see keeps it at its beginning. -/
theorem exists_cleaned (h : s.toList = c :: cs) (hc : ¬ c ≤ ' ') : ∃ cs', cleaned s = c :: cs' := by
  rw [cleaned, h, List.dropWhile_cons_of_neg (by simpa using hc)]
  show ∃ cs', ((c :: cs).rdropWhile _).filter _ = c :: cs'
  -- What is cut off at the end does not reach the first character.
  generalize hcut : (c :: cs).rdropWhile (fun c => decide (c ≤ ' ')) = cut
  cases cut with
  | nil =>
    have hblank := List.rdropWhile_eq_nil_iff.1 hcut c List.mem_cons_self
    exact absurd (of_decide_eq_true hblank) hc
  | cons a as =>
    obtain ⟨rfl, -⟩ := List.cons_prefix_cons.1 (hcut ▸ List.rdropWhile_prefix _ (c :: cs))
    refine ⟨_, List.filter_cons_of_pos ?_⟩
    -- Nor is it a tab or a line break, which are left out everywhere.
    have hne : ∀ b : Char, b ≤ ' ' → a ≠ b := fun b hb hab => hc (hab ▸ hb)
    simp [hne '\t' (by decide), hne '\n' (by decide), hne '\r' (by decide)]

/-- A scheme begins with a letter. -/
theorem splitScheme?_of_head (hc : c.isAlpha = false) : splitScheme? (c :: cs) = none := by
  rw [splitScheme?]
  cases hsplit : splitFirst ':' (c :: cs) with
  | none => rfl
  | some parts =>
    obtain ⟨scheme, rest⟩ := parts
    obtain ⟨heq, -⟩ := splitFirst_eq_some_iff.1 hsplit
    cases scheme with
    | nil => rfl
    | cons a as =>
      obtain ⟨rfl, -⟩ := List.cons.inj heq
      show (if c.isAlpha = true ∧ _ then _ else none) = none
      rw [if_neg]
      rintro ⟨halpha, -⟩
      rw [hc] at halpha
      cases halpha

/-- A reference is no URL: it has no scheme. -/
theorem decode_of_reference {k : Scanned String} {ref name : String} (hk : k.read = .ok ref)
    (href : Environment.References ref name) :
    decode (.string k) = .error (.refused ("relative URL without a base: " ++ quoted ref)) := by
  obtain ⟨cs, hcs⟩ := href.head
  obtain ⟨cs', hcleaned⟩ := exists_cleaned hcs (by decide)
  have hread : read ref = .error .relative := by
    rw [read, hcleaned, splitScheme?_of_head (by decide)]
  have htext : Decoder.textAs "a string representing an URL" (.string k) = .ok ref :=
    checked_eq_ok_iff.2 hk
  rw [decode, htext]
  show (read ref).mapError _ = _
  rw [hread]
  show Except.error (DecodeError.refused (UrlFault.relative.message ++ ": " ++ quoted ref)) = _
  rw [show UrlFault.relative.message ++ ": " = "relative URL without a base: " by decide +kernel]

end Url

/-! ### Texts in which a string is exchanged -/

open ChainConfig (Secret)
open Document (Slot Differ)
open Environment (References IsReference Touches isNameChar)

namespace Config

variable {env : Environment} {s s' v w name ref : String} {config : Config} {path : Path}
  {k k' : Scanned String} {d d' : Document} {secret : Secret} {c : ChainId}

/-- Whether `s'` is the text `s` with the string at a path exchanged for one that is read as `v`,
    however it is spelled. -/
def Exchanges (s : String) (path : Path) (v s' : String) : Prop :=
  ∃ k front back lit k', Slot s.toList path k front back ∧ Escape.Spells lit k' ∧ k'.read = .ok v ∧
    s'.toList = front ++ (lit ++ back)

/-- Every string of an accepted text can be exchanged, for any other one. -/
theorem exists_exchanges (h : read env s = .ok config)
    (hat : (Document.scan s.toList).1.at? path = some (.string k)) (v : String) :
    ∃ s', Exchanges s path v s' := by
  obtain ⟨-, hblanks⟩ := Decoder.run_eq_ok_iff.1 h
  cases hrest : (Document.scan s.toList).2 with
  | none =>
    rw [hrest] at hblanks
    cases hblanks
  | some rest =>
    obtain ⟨front, back, hslot⟩ := Document.exists_slot hrest hat
    exact ⟨String.ofList (front ++ (Escape.write v ++ back)), k, front, back, Escape.write v, .ok v,
      hslot, Escape.spells_write v, rfl, String.toList_ofList⟩

/-- Such a text is read as a document that differs in that string alone. -/
theorem exists_differ (hs : Exchanges s path v s') (h : read env s = .ok config) :
    ∃ k k' d', k'.read = .ok v ∧
      Differ (.string k) (.string k') path (Document.scan s.toList).1 d' ∧
      ∀ env', read env' s' = decode env' d' := by
  obtain ⟨k, front, back, lit, k', hslot, hlit, hk', hs'⟩ := hs
  obtain ⟨-, hblanks⟩ := Decoder.run_eq_ok_iff.1 h
  obtain ⟨d', hscan, hdiffer⟩ := hslot.exchange lit k' hlit
  exact ⟨k, k', d', hk', hdiffer, fun env' => Decoder.run_of_scan (hs' ▸ hscan) hblanks⟩

/-! ### What becomes of the configuration -/

/-- The token that is exchanged is exchanged in the configuration, and nothing else. -/
theorem decode_of_token {before after : Option String} {x x' : Document}
    (hplace : Place .token c path) (hdiffer : Differ x x' path d d')
    (hx : FilecoinSettings.decodeToken env x = .ok before)
    (hx' : FilecoinSettings.decodeToken env x' = .ok after) (h : decode env d = .ok config) :
    ∃ config', decode env d' = .ok config' ∧
      OneDiffers (ChainConfig.Retoken c before after) config.chains config'.chains := by
  obtain ⟨hf, hkey, hplace⟩ := hplace
  have hturns : Turns none (fun config config' =>
      OneDiffers (ChainConfig.Retoken c before after) config.chains config'.chains) config
        (decode env d') :=
    decode_of_differ hf hkey hdiffer
      (fun _ _ _ hv hchain => ChainConfig.decode_of_token hplace hv hx hx' hchain) h
  exact hturns

/-- A URL that is refused is why the configuration is. -/
theorem decode_of_url {e : DecodeError} {x x' : Document} (hplace : Place .url c path)
    (hdiffer : Differ x x' path d d') (hx' : Url.decode x' = .error e)
    (h : decode env d = .ok config) : decode env d' = .error e := by
  obtain ⟨hf, hkey, hplace⟩ := hplace
  have hturns : Turns (some e) (fun config config' =>
      OneDiffers (fun _ _ => True) config.chains config'.chains) config (decode env d') :=
    decode_of_differ hf hkey hdiffer
      (fun _ _ _ hv hchain => ChainConfig.decode_of_url hplace hv hx' hchain) h
  exact hturns

/-- A token that is exchanged for itself changes nothing. -/
theorem eq_of_retoken {token : Option String} {chains chains' : List ChainConfig}
    (h : OneDiffers (ChainConfig.Retoken c token token) chains chains') : chains' = chains := by
  obtain ⟨before, _, _, after, rfl, rfl, network, settings, -, rfl, rfl, rfl⟩ := h
  rfl

/-! ### Variables that a text does not refer to -/

/-- Whether no token of the text refers to a variable where the value of `name` could be found. -/
def Spares (s name : String) : Prop :=
  ∀ c path raw name', Place .token c path → (Document.scan s.toList).1.textAt? path = some raw →
    References raw name' → ¬ Touches name name'

theorem spares_of_texts (h : ∀ raw ∈ (Document.scan s.toList).1.texts,
    ∀ name' ∈ Environment.reference? raw, ¬ Touches name name') : Spares s name := by
  intro c path raw name' _ htext href
  obtain ⟨k, hat, hk⟩ := Document.textAt?_eq_some_iff.1 htext
  have hraw : raw ∈ (Document.string k).texts := by simp [Document.texts, hk, Except.toOption]
  exact h raw (Document.texts_subset hat hraw) name' (Environment.reference?_eq_some_iff.2 href)

/-- Such a variable may have any value. -/
theorem decode_of_spares (hspares : Spares s name) (hname : ∀ c ∈ name.toList, isNameChar c = true)
    (h : read env s = .ok config) (w : String) :
    decode (env.set name w) (Document.scan s.toList).1 = .ok config := by
  refine decode_of_alike (fun c path x hplace hx => ?_) (Decoder.eq_ok_of_run h)
  refine FilecoinSettings.alike_of_get? fun raw name' hraw href => ?_
  cases x with
  | string k =>
    have htext := Document.textAt?_eq_some_iff.2 ⟨k, hx, checked_eq_ok_iff.1 hraw⟩
    exact Environment.get?_set_of_not hname (hspares c path raw name' hplace htext href)
  | _ => cases hraw

/-! ### Indirection -/

/-- What is read of a text with a reference to the variable `name` in the place of a URL or a token
    `v` of the chain `c`, which was accepted as a configuration before. -/
structure Indirection (env : Environment) (config : Config) (secret : Secret) (c : ChainId)
    (v name ref s' : String) : Prop where
  /-- A token is the value of the variable, as it is, and nothing else has changed. -/
  token : secret = .token → ∀ w, ∃ config', read (env.set name w) s' = .ok config' ∧
    OneDiffers (ChainConfig.Retoken c (some v) (some w)) config.chains config'.chains
  /-- For a URL the variable is not looked up. -/
  url : secret = .url → ∀ w, read (env.set name w) s' =
    .error (.refused ("relative URL without a base: " ++ quoted ref))
  /-- So that the configuration is the same for the value `v` exactly if it is a token. -/
  same_iff : read (env.set name v) s' = .ok config ↔ secret = .token

/-- **Indirection.**  In a text that is accepted, a URL or a token that is no reference can be
    exchanged for a reference to a variable, with braces or without.  If no token refers to the
    variable otherwise, then the configuration is the same with the value in the variable if this is
    a token; if it is a URL, then the text is refused. -/
theorem indirection (h : read env s = .ok config) (hplace : Place secret c path)
    (htext : (Document.scan s.toList).1.textAt? path = some v) (hv : ¬ IsReference v)
    (hne : name ≠ "") (hname : ∀ c ∈ name.toList, isNameChar c = true) (hspares : Spares s name) :
    ∀ ref ∈ ["$" ++ name, "$\x7b" ++ name ++ "\x7d"],
      (∃ s', Exchanges s path ref s') ∧
        ∀ s', Exchanges s path ref s' → Indirection env config secret c v name ref s' := by
  intro ref hmem
  obtain ⟨k, hat, hk⟩ := Document.textAt?_eq_some_iff.1 htext
  have href : References ref name := by
    rcases List.mem_pair.1 hmem with rfl | rfl
    · exact ⟨hne, .inr ⟨rfl, hname⟩⟩
    · exact ⟨hne, .inl rfl⟩
  refine ⟨exists_exchanges h hat ref, fun s' hs' => ?_⟩
  obtain ⟨_, k', d', hk', hdiffer, hread⟩ := exists_differ hs' h
  -- The string that was exchanged is the one at the path.
  cases (Document.at?_of_differ hdiffer).symm.trans hat
  have htoken : secret = .token → ∀ w, ∃ config', read (env.set name w) s' = .ok config' ∧
      OneDiffers (ChainConfig.Retoken c (some v) (some w)) config.chains config'.chains := by
    rintro rfl w
    have hbefore : FilecoinSettings.decodeToken (env.set name w) (.string k) = .ok (some v) :=
      FilecoinSettings.decodeToken_of_literal (checked_eq_ok_iff.2 hk) hv
    have hafter : FilecoinSettings.decodeToken (env.set name w) (.string k') = .ok (some w) :=
      FilecoinSettings.decodeToken_of_reference (checked_eq_ok_iff.2 hk') href
        (Environment.get?_set_self hname)
    rw [hread]
    exact decode_of_token hplace hdiffer hbefore hafter (decode_of_spares hspares hname h w)
  have hurl : secret = .url → ∀ w, read (env.set name w) s' =
      .error (.refused ("relative URL without a base: " ++ quoted ref)) := by
    rintro rfl w
    rw [hread]
    exact decode_of_url hplace hdiffer (Url.decode_of_reference hk' href)
      (decode_of_spares hspares hname h w)
  refine ⟨htoken, hurl, ?_⟩
  cases secret with
  | token =>
    obtain ⟨config', hconfig', hone⟩ := htoken rfl v
    rw [hconfig', show config' = config from congrArg Config.mk (eq_of_retoken hone)]
    simp
  | url =>
    rw [hurl rfl v]
    simp

/-- Two Filecoin networks, the token of one of them in a variable. -/
def twoTokens : String :=
  "\x7b\"chains\":\x7b\"fil:f\":\x7b\"rpc\":[\"http://[::1]\"],\"auth_token\":\"s\"\x7d," ++
    "\"fil:t\":\x7b\"rpc\":[\"http://[::2]\"],\"auth_token\":\"$B\"\x7d\x7d\x7d"

def twoNetworks : Config :=
  ⟨[.filecoin .mainnet ⟨node 1, some "s"⟩, .filecoin .testnet ⟨node 2, some "t"⟩]⟩

/-- What is configured for the first network. -/
def firstPath : Secret → Path
  | .token => [.member "chains", .member "fil:f", .member "auth_token"]
  | .url => [.member "chains", .member "fil:f", .member "rpc", .item 0]

def firstText : Secret → String
  | .token => "s"
  | .url => "http://[::1]"

/-- The other token may be put into any variable but that one, and the URL into none. -/
theorem indirection_twoTokens :
    read ⟨[("B", "t")]⟩ twoTokens = .ok twoNetworks ∧
      ∀ secret, ∀ ref ∈ ["$" ++ "A", "$\x7b" ++ "A" ++ "\x7d"],
        (∃ s', Exchanges twoTokens (firstPath secret) ref s') ∧
          ∀ s', Exchanges twoTokens (firstPath secret) ref s' →
            Indirection ⟨[("B", "t")]⟩ twoNetworks secret ⟨"fil", "f"⟩ (firstText secret) "A" ref
              s' := by
  have hread : read ⟨[("B", "t")]⟩ twoTokens = .ok twoNetworks := by decide +kernel
  have hspares : Spares twoTokens "A" := spares_of_texts (by decide +kernel)
  have hname : ∀ c ∈ "A".toList, isNameChar c = true := List.all_eq_true.1 (by decide +kernel)
  have hkey : ChainId.read "fil:f" = .ok ⟨"fil", "f"⟩ := by decide +kernel
  have hplace : ∀ secret, Place secret ⟨"fil", "f"⟩ (firstPath secret)
    | .token => .chain (.inl rfl) hkey (.token (.inl rfl))
    | .url => .chain (.inl rfl) hkey (.filecoinUrl (.inl rfl) (.inr rfl))
  have htext : ∀ secret,
      (Document.scan twoTokens.toList).1.textAt? (firstPath secret) = some (firstText secret)
    | .token => by decide +kernel
    | .url => by decide +kernel
  have hliteral : ∀ secret, ¬ IsReference (firstText secret)
    | .token => by decide +kernel
    | .url => by decide +kernel
  refine ⟨hread, fun secret => ?_⟩
  exact indirection hread (hplace secret) (htext secret) (hliteral secret) (by decide) hname hspares

/-- One EVM chain with one node at an address. -/
def oneNode (address : String) : String :=
  "\x7b\"chains\":\x7b\"eip155:1\":\x7b\"rpc\":[\x7b\"http\":\"" ++ address ++ "\"\x7d]\x7d\x7d\x7d"

/-- A node's address that is put into a variable is not found there, with braces or without. -/
theorem address_in_variable :
    read ⟨[]⟩ (oneNode "http://[::1]") = .ok ⟨[chainAt 1 1]⟩ ∧
      read (Environment.set ⟨[]⟩ "NODE" "http://[::1]") (oneNode "$NODE") =
        .error (.refused "relative URL without a base: \"$NODE\"") ∧
      read (Environment.set ⟨[]⟩ "NODE" "http://[::1]") (oneNode "$\x7bNODE\x7d") =
        .error (.refused "relative URL without a base: \"$\x7bNODE\x7d\"") := by
  decide +kernel

end Config

end NonceAllocation
