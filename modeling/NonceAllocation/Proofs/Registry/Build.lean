import Mathlib.Data.List.Dedup
import NonceAllocation.Proofs.Basic
import NonceAllocation.Registry

namespace NonceAllocation

/-!
# The registry — what becomes of the configured chains

Chains are entered one after the other, each in the stead of an earlier one of its identifier.

* `Directory.ids_put`, `Directory.get?_put` — entering one chain;
* `Registry.nodup_ids_enter`, `Registry.mem_ids_enter` — the identifiers of a registry: those of the
  configured chains, each once;
* `Registry.size_build_eq_iff` — there are as many trackers as chains exactly when the identifiers
  of the chains are distinct;
* `Registry.tracker?_build` — the tracker under an identifier is that of the last chain of it.
-/

/-! ### Directories -/

namespace Directory

variable {α : Type} {d : Directory α} {c i : ChainId} {a : α}

theorem map_fst_place (c : ChainId) (a : α) (es : List (ChainId × α)) :
    (place c a es).map Prod.fst
      = if c ∈ es.map Prod.fst then es.map Prod.fst else es.map Prod.fst ++ [c] := by
  induction es with
  | nil => rfl
  | cons e es ih =>
    rw [place]
    by_cases h : e.1 = c
    · rw [if_pos h, List.map_cons, List.map_cons, if_pos (h ▸ List.mem_cons_self), h]
    · rw [if_neg h, List.map_cons, ih, List.map_cons]
      -- The first entry is another chain's, so that `c` is looked for behind it.
      have hmem : c ∈ e.1 :: es.map Prod.fst ↔ c ∈ es.map Prod.fst := by
        rw [List.mem_cons]
        exact or_iff_right (Ne.symm h)
      by_cases hc : c ∈ es.map Prod.fst
      · rw [if_pos hc, if_pos (hmem.2 hc)]
      · rw [if_neg hc, if_neg (mt hmem.1 hc), List.cons_append]

/-- A chain that was entered before keeps its place, a new one comes last. -/
theorem ids_put : (d.put c a).ids = if c ∈ d.ids then d.ids else d.ids ++ [c] :=
  map_fst_place c a d.entries

theorem mem_ids_put : i ∈ (d.put c a).ids ↔ i = c ∨ i ∈ d.ids := by
  rw [ids_put]
  split
  · rename_i hc
    constructor
    · exact .inr
    · rintro (rfl | hi)
      · exact hc
      · exact hi
  · rw [List.mem_append, List.mem_singleton, or_comm]

theorem nodup_ids_put (h : d.ids.Nodup) : (d.put c a).ids.Nodup := by
  rw [ids_put]
  split
  · exact h
  · rename_i hc
    exact h.append (List.nodup_singleton c) (List.disjoint_singleton.2 hc)

theorem lookup_place (c : ChainId) (a : α) (es : List (ChainId × α)) (i : ChainId) :
    (place c a es).lookup i = if i = c then some a else es.lookup i := by
  induction es with
  | nil => exact lookup_cons_eq c i a []
  | cons e es ih =>
    obtain ⟨k, b⟩ := e
    rw [place, lookup_cons_eq k i b es]
    by_cases hk : k = c
    · rw [if_pos hk, lookup_cons_eq, hk]
      by_cases hi : i = c
      · rw [if_pos hi, if_pos hi]
      · rw [if_neg hi, if_neg hi, if_neg hi]
    · rw [if_neg hk, lookup_cons_eq, ih]
      by_cases hi : i = k
      · rw [if_pos hi, if_neg fun hc => hk (hi.symm.trans hc), if_pos hi]
      · rw [if_neg hi, if_neg hi]

/-- Entering a chain changes what is found under its identifier, and nothing else. -/
theorem get?_put : (d.put c a).get? i = if i = c then some a else d.get? i :=
  lookup_place c a d.entries i

end Directory

/-! ### Trackers of configured chains -/

/-- The nodes of a chain are those of its settings that are on the web, and there is one. -/
theorem EvmSource.of_ofSettings {chain : EvmChain} {settings : EvmSettings} {source : EvmSource}
    (h : ofSettings chain settings = .ok source) :
    source = ⟨chain, settings.endpoints.filter fun e => e.url.isWeb, settings.blockTag⟩ ∧
      source.endpoints ≠ [] := by
  rw [ofSettings] at h
  split at h
  · cases h
  · split at h
    · cases h
    · rename_i hsome
      cases h
      exact ⟨rfl, mt List.isEmpty_iff.2 hsome⟩

theorem FilecoinSource.network_of_ofSettings {network : FilNetwork} {settings : FilecoinSettings}
    {source : FilecoinSource} (h : ofSettings network settings = .ok source) :
    source.network = network := by
  rw [ofSettings] at h
  split at h
  · cases h
  · split at h
    · cases h
    · split at h
      · cases h
      · cases h
        rfl

/-- The tracker of a configured chain goes by the identifier of the chain itself. -/
theorem ChainTracker.id_of_ofConfig {ledgers : LedgerSet} {c : ChainConfig} {t : ChainTracker}
    (h : ofConfig ledgers c = .ok t) : t.id = c.id := by
  cases c with
  | evm chain settings =>
    simp only [ofConfig, bind_eq_ok_iff, mapError_eq_ok_iff] at h
    obtain ⟨ledger, -, source, hsource, ht⟩ := h
    cases ht
    show source.chain.id = chain.id
    rw [(EvmSource.of_ofSettings hsource).1]
  | filecoin network settings =>
    simp only [ofConfig, bind_eq_ok_iff, mapError_eq_ok_iff] at h
    obtain ⟨ledger, -, source, hsource, ht⟩ := h
    cases ht
    show source.network.id = network.id
    rw [FilecoinSource.network_of_ofSettings hsource]

/-! ### Entering chains -/

namespace Registry

variable {ledgers : LedgerSet} {r r' : Registry} {c : ChainConfig} {cs pre post : List ChainConfig}
  {i : ChainId}

theorem enter_cons (h : enter ledgers r (c :: cs) = .ok r') :
    ∃ t, ChainTracker.ofConfig ledgers c = .ok t ∧
      enter ledgers ⟨r.trackers.put c.id t⟩ cs = .ok r' := by
  obtain ⟨t, ht, hcs⟩ := bind_eq_ok_iff.1 h
  rw [ChainTracker.id_of_ofConfig ht] at hcs
  exact ⟨t, ht, hcs⟩

theorem enter_append (h : enter ledgers r (pre ++ post) = .ok r') :
    ∃ r₁, enter ledgers r pre = .ok r₁ ∧ enter ledgers r₁ post = .ok r' := by
  induction pre generalizing r with
  | nil => exact ⟨r, rfl, h⟩
  | cons c pre ih =>
    obtain ⟨t, ht, hrest⟩ := bind_eq_ok_iff.1 h
    obtain ⟨r₁, hpre, hpost⟩ := ih hrest
    exact ⟨r₁, bind_eq_ok_iff.2 ⟨t, ht, hpre⟩, hpost⟩

theorem nodup_ids_enter (h : enter ledgers r cs = .ok r') (hr : r.ids.Nodup) : r'.ids.Nodup := by
  induction cs generalizing r with
  | nil =>
    cases h
    exact hr
  | cons c cs ih =>
    obtain ⟨t, -, hcs⟩ := enter_cons h
    exact ih hcs (Directory.nodup_ids_put hr)

theorem mem_ids_enter (h : enter ledgers r cs = .ok r') :
    i ∈ r'.ids ↔ i ∈ r.ids ∨ i ∈ cs.map ChainConfig.id := by
  induction cs generalizing r with
  | nil =>
    cases h
    simp
  | cons c cs ih =>
    obtain ⟨t, -, hcs⟩ := enter_cons h
    have hput : i ∈ (Registry.mk (r.trackers.put c.id t)).ids ↔ i = c.id ∨ i ∈ r.ids :=
      Directory.mem_ids_put
    rw [ih hcs, hput, List.map_cons, List.mem_cons, or_assoc, or_left_comm]

/-- What is found under an identifier is untouched by chains of others. -/
theorem tracker?_enter_of_not_mem (h : enter ledgers r cs = .ok r')
    (hi : i ∉ cs.map ChainConfig.id) : r'.tracker? i = r.tracker? i := by
  induction cs generalizing r with
  | nil =>
    cases h
    rfl
  | cons c cs ih =>
    obtain ⟨t, -, hcs⟩ := enter_cons h
    rw [List.map_cons, List.mem_cons, not_or] at hi
    calc r'.tracker? i = (Registry.mk (r.trackers.put c.id t)).tracker? i := ih hcs hi.2
      _ = r.tracker? i := Directory.get?_put.trans (if_neg hi.1)

/-! ### The registry of a configuration -/

/-- There are as many trackers as distinct identifiers. -/
theorem size_build (h : build ledgers cs = .ok r) :
    r.size = (cs.map ChainConfig.id).dedup.length := by
  -- Both lists hold each configured identifier once, in whatever order.
  have hids : r.ids.Perm (cs.map ChainConfig.id).dedup := by
    rw [List.perm_ext_iff_of_nodup (nodup_ids_enter h List.nodup_nil) (List.nodup_dedup _)]
    intro i
    rw [mem_ids_enter h, List.mem_dedup]
    exact or_iff_right List.not_mem_nil
  calc r.size = r.ids.length := (List.length_map _).symm
    _ = (cs.map ChainConfig.id).dedup.length := hids.length_eq

theorem size_build_eq_iff (h : build ledgers cs = .ok r) :
    r.size = cs.length ↔ (cs.map ChainConfig.id).Nodup := by
  rw [size_build h, ← List.dedup_eq_self]
  constructor
  · -- A sublist of full length has left nothing out.
    intro hlen
    exact (List.dedup_sublist _).eq_of_length (hlen.trans (List.length_map _).symm)
  · intro heq
    rw [heq, List.length_map]

/-- **The last chain of an identifier counts.**  Its tracker is the one that is found. -/
theorem tracker?_build (h : build ledgers (pre ++ c :: post) = .ok r)
    (hlast : c.id ∉ post.map ChainConfig.id) :
    ∃ t, ChainTracker.ofConfig ledgers c = .ok t ∧ r.tracker? c.id = some t := by
  obtain ⟨r₁, -, hrest⟩ := enter_append h
  obtain ⟨t, ht, hpost⟩ := enter_cons hrest
  refine ⟨t, ht, ?_⟩
  -- The chains behind `c` enter under other identifiers.
  rw [tracker?_enter_of_not_mem hpost hlast]
  exact Directory.get?_put.trans (if_pos rfl)

/-- No chain is replaced if their identifiers are distinct. -/
theorem tracker?_build_of_nodup (h : build ledgers cs = .ok r)
    (hnodup : (cs.map ChainConfig.id).Nodup) (hc : c ∈ cs) :
    ∃ t, ChainTracker.ofConfig ledgers c = .ok t ∧ r.tracker? c.id = some t := by
  obtain ⟨pre, post, rfl⟩ := List.append_of_mem hc
  rw [List.map_append, List.map_cons] at hnodup
  have hlast : c.id ∉ post.map ChainConfig.id :=
    (List.nodup_cons.1 (List.nodup_append.1 hnodup).2.1).1
  exact tracker?_build h hlast

end Registry

end NonceAllocation
