import NonceAllocation.Proofs.Chain.Text
import NonceAllocation.Proofs.Config.RoundTrip

namespace NonceAllocation

/-!
# Configurations — what a list of chains may hold

The list of chains is an object, and it is decoded member by member.  Told apart from that walk, it
is a language, and each member can leave it in six ways.

* `Config.Lists` — the chains that entries list;
* `Config.Offends`, `Config.FirstOffence` — what is wrong with an entry, and the first entry with
  which something is wrong;
* `Config.decodeMembers_more_eq_ok_iff`, `Config.decodeMembers_more_eq_error_iff` — one member;
* `Config.decodeMembers_eq_ok_iff`, `Config.decodeMembers_eq_error_iff` — the whole walk;
* `Config.Gives`, `Config.read_of_gives` — a whole configuration around the list;
* `Config.language_of_entries` — the list of chains as a language.
-/

/-! ### The list of chains -/

namespace Config

/-- A member of the list: its key and its value. -/
abbrev Entry := String × Document

/-- Whether the entry lists the chain. -/
def ListsChain (env : Environment) (entry : Entry) (c : ChainConfig) : Prop :=
  ∃ k, ChainId.Spells entry.1 k ∧ ChainConfig.Accepts env k entry.2 c

/-- Whether the entries, behind those of the keys `before`, list the chains: one each, in their
    order, and under keys that do not repeat. -/
structure Lists (env : Environment) (before : List String) (es : List Entry)
    (chains : List ChainConfig) : Prop where
  each : List.Forall₂ (ListsChain env) es chains
  nodup : (es.map Prod.fst).Nodup
  fresh : ∀ key ∈ es.map Prod.fst, key ∉ before

/-- What is wrong with an entry behind those of the keys `before`.  The key is looked at first, then
    whether it was there before, and the value last. -/
inductive Offends (env : Environment) (before : List String) (entry : Entry) :
    DecodeError → Prop where
  | noIdentifier (hkey : ∀ k, ¬ ChainId.Spells entry.1 k) :
      Offends env before entry (.refused ("Invalid chain id format " ++ entry.1))
  | duplicate {k} (hkey : ChainId.Spells entry.1 k) (hbefore : entry.1 ∈ before) :
      Offends env before entry (.refused ("Duplicate chain: " ++ entry.1))
  | chain {k e} (hkey : ChainId.Spells entry.1 k) (hfresh : entry.1 ∉ before)
      (hchain : ChainConfig.Rejects env k entry.2 e) : Offends env before entry e

/-- Whether the first entry with which something is wrong has that error: those in front of it list
    chains. -/
def FirstOffence (env : Environment) (before : List String) (es : List Entry) (e : DecodeError) :
    Prop :=
  ∃ pre entry post, es = pre ++ entry :: post ∧ (∃ chains, Lists env before pre chains) ∧
    Offends env (before ++ pre.map Prod.fst) entry e

variable {env : Environment} {before : List String} {entry : Entry} {es : List Entry}
  {chains : List ChainConfig} {e : DecodeError}

theorem lists_nil_iff : Lists env before [] chains ↔ chains = [] := by
  constructor
  · rintro ⟨hall, -, -⟩
    exact List.forall₂_nil_left_iff.1 hall
  · rintro rfl
    exact ⟨.nil, List.nodup_nil, by simp⟩

theorem lists_cons_iff :
    Lists env before (entry :: es) chains ↔
      ∃ c chains', entry.1 ∉ before ∧ ListsChain env entry c ∧
        Lists env (before ++ [entry.1]) es chains' ∧ chains = c :: chains' := by
  constructor
  · rintro ⟨hall, hnodup, hfresh⟩
    obtain ⟨c, chains', hc, hrest, rfl⟩ := List.forall₂_cons_left_iff.1 hall
    obtain ⟨hnew, hdistinct⟩ := List.nodup_cons.1 hnodup
    obtain ⟨hentry, hunseen⟩ := List.forall_mem_cons.1 hfresh
    refine ⟨c, chains', hentry, hc, ⟨hrest, hdistinct, fun key hkey hmem => ?_⟩, rfl⟩
    -- It was neither there before nor in front.
    rcases List.mem_append.1 hmem with hmem | hmem
    · exact hunseen key hkey hmem
    · exact hnew (List.mem_singleton.1 hmem ▸ hkey)
  · rintro ⟨c, chains', hentry, hc, ⟨hall, hnodup, hfresh⟩, rfl⟩
    have hnew : entry.1 ∉ es.map Prod.fst := fun hmem =>
      hfresh entry.1 hmem (List.mem_append_right before List.mem_cons_self)
    refine ⟨.cons hc hall, List.nodup_cons.2 ⟨hnew, hnodup⟩, List.forall_mem_cons.2 ⟨hentry, ?_⟩⟩
    exact fun key hkey hmem => hfresh key hkey (List.mem_append_left [entry.1] hmem)

theorem not_firstOffence_nil : ¬ FirstOffence env before [] e := by
  rintro ⟨pre, entry, post, hsplit, -⟩
  exact List.append_ne_nil_of_right_ne_nil pre (List.cons_ne_nil entry post) hsplit.symm

/-- Either the first entry offends, or it lists a chain and the first offence is behind it. -/
theorem firstOffence_cons_iff :
    FirstOffence env before (entry :: es) e ↔
      Offends env before entry e ∨
        ∃ c, entry.1 ∉ before ∧ ListsChain env entry c ∧
          FirstOffence env (before ++ [entry.1]) es e := by
  constructor
  · rintro ⟨pre, offender, post, hsplit, ⟨chains, hlists⟩, hoffends⟩
    -- Is the offender the first entry, or is that one in front of it?
    cases pre with
    | nil =>
      cases hsplit
      rw [List.map_nil, List.append_nil] at hoffends
      exact .inl hoffends
    | cons first pre =>
      cases hsplit
      obtain ⟨c, chains', hfresh, hc, hlists, -⟩ := lists_cons_iff.1 hlists
      rw [List.map_cons, ← List.singleton_append, ← List.append_assoc] at hoffends
      exact .inr ⟨c, hfresh, hc, pre, offender, post, rfl, ⟨chains', hlists⟩, hoffends⟩
  · rintro (hoffends | ⟨c, hfresh, hc, pre, offender, post, rfl, ⟨chains, hlists⟩, hoffends⟩)
    · refine ⟨[], entry, es, rfl, ⟨[], lists_nil_iff.2 rfl⟩, ?_⟩
      rw [List.map_nil, List.append_nil]
      exact hoffends
    · refine ⟨entry :: pre, offender, post, rfl, ⟨c :: chains, ?_⟩, ?_⟩
      · exact lists_cons_iff.2 ⟨c, chains, hfresh, hc, hlists, rfl⟩
      · rw [List.map_cons, ← List.singleton_append, ← List.append_assoc]
        exact hoffends

/-! ### The walk -/

/-- Whether the identifiers `seen` are those of the keys `before`. -/
def Marks (seen : List ChainId) (before : List String) : Prop :=
  ∀ key k, ChainId.Spells key k → (k ∈ seen ↔ key ∈ before)

theorem marks_nil : Marks [] [] := fun _ _ _ => iff_of_false List.not_mem_nil List.not_mem_nil

variable {seen : List ChainId} {k : ChainId}

theorem Marks.cons {name : String} (h : Marks seen before) (hkey : ChainId.Spells name k) :
    Marks (k :: seen) (before ++ [name]) := by
  intro key k' hkey'
  have heq : k' = k ↔ key = name := by
    constructor
    · rintro rfl
      exact hkey'.1.trans hkey.1.symm
    · rintro rfl
      exact hkey'.unique hkey
  rw [List.mem_cons, List.mem_append, List.mem_singleton, heq, h key k' hkey', or_comm]

section

variable {key : Scanned String} {value : Document} {raw : String} {rest : Members} {name : String}

/-- Behind the text of an identifier there is still to see whether it came before, what the value
    configures, and the rest. -/
theorem decodeMembers_more_of_spells (hname : key.read = .ok name) (hkey : ChainId.Spells name k) :
    decodeMembers env seen (.more key value raw rest) = (do
      if k ∈ seen then .error (.refused ("Duplicate chain: " ++ name))
      let chain ← ChainConfig.decode env k value
      let chains ← decodeMembers env (k :: seen) rest
      .ok (chain :: chains)) := by
  rw [decodeMembers_more hname, ChainId.read_eq_ok_iff_spells.2 hkey, hkey.1]
  rfl

/-- One member is decoded if it lists a chain under a new key, and those behind it are. -/
theorem decodeMembers_more_eq_ok_iff (hname : key.read = .ok name) (hseen : Marks seen before) :
    decodeMembers env seen (.more key value raw rest) = .ok chains ↔
      ∃ k c chains', ChainId.Spells name k ∧ name ∉ before ∧ ChainConfig.Accepts env k value c ∧
        decodeMembers env (k :: seen) rest = .ok chains' ∧ chains = c :: chains' := by
  constructor
  · intro h
    rw [decodeMembers_more hname] at h
    obtain ⟨k, hk, h⟩ := bind_eq_ok_iff.1 h
    obtain ⟨hunseen, h⟩ := guard_eq_ok_iff.1 h
    obtain ⟨c, hc, h⟩ := bind_eq_ok_iff.1 h
    obtain ⟨chains', hrest, h⟩ := bind_eq_ok_iff.1 h
    cases h
    have hkey : ChainId.Spells name k := ChainId.read_eq_ok_iff_spells.1 (mapError_eq_ok_iff.1 hk)
    have hfresh : name ∉ before := mt (hseen name k hkey).2 hunseen
    exact ⟨k, c, chains', hkey, hfresh, ChainConfig.decode_eq_ok_iff.1 hc, hrest, rfl⟩
  · rintro ⟨k, c, chains', hkey, hfresh, hc, hrest, rfl⟩
    rw [decodeMembers_more_of_spells hname hkey]
    refine guard_eq_ok_iff.2 ⟨mt (hseen name k hkey).1 hfresh, ?_⟩
    refine bind_eq_ok_iff.2 ⟨c, ChainConfig.decode_eq_ok_iff.2 hc, ?_⟩
    exact bind_eq_ok_iff.2 ⟨chains', hrest, rfl⟩

/-- One member is refused for its own offence, or, if there is none, for one behind it. -/
theorem decodeMembers_more_eq_error_iff (hname : key.read = .ok name) (hseen : Marks seen before) :
    decodeMembers env seen (.more key value raw rest) = .error e ↔
      Offends env before (name, value) e ∨
        ∃ k c, ChainId.Spells name k ∧ name ∉ before ∧ ChainConfig.Accepts env k value c ∧
          decodeMembers env (k :: seen) rest = .error e := by
  constructor
  · intro h
    cases hread : ChainId.read name with
    | error fault =>
      obtain ⟨hnone, rfl⟩ := ChainId.read_eq_error_iff.1 hread
      rw [decodeMembers_more hname, hread] at h
      cases h
      exact .inl (.noIdentifier hnone)
    | ok k =>
      have hkey : ChainId.Spells name k := ChainId.read_eq_ok_iff_spells.1 hread
      rw [decodeMembers_more_of_spells hname hkey] at h
      rcases guard_eq_error_iff.1 h with ⟨hmem, rfl⟩ | ⟨hunseen, h⟩
      · exact .inl (.duplicate hkey ((hseen name k hkey).1 hmem))
      have hfresh : name ∉ before := mt (hseen name k hkey).2 hunseen
      rcases bind_eq_error_iff.1 h with hc | ⟨c, hc, h⟩
      · exact .inl (.chain hkey hfresh (ChainConfig.decode_eq_error_iff.1 hc))
      rcases bind_eq_error_iff.1 h with hrest | ⟨chains, -, h⟩
      · exact .inr ⟨k, c, hkey, hfresh, ChainConfig.decode_eq_ok_iff.1 hc, hrest⟩
      · cases h
  · rintro (hoffends | ⟨k, c, hkey, hfresh, hc, hrest⟩)
    · cases hoffends with
      | noIdentifier hnone =>
        have hfault := ChainId.read_eq_error_iff.2 ⟨hnone, rfl⟩
        rw [decodeMembers_more hname]
        exact bind_eq_error_iff.2 (.inl (mapError_eq_error_iff.2 ⟨_, hfault, rfl⟩))
      | @duplicate k hkey hbefore =>
        rw [decodeMembers_more_of_spells hname hkey]
        exact guard_eq_error_iff.2 (.inl ⟨(hseen name k hkey).2 hbefore, rfl⟩)
      | @chain k e hkey hfresh hchain =>
        rw [decodeMembers_more_of_spells hname hkey]
        refine guard_eq_error_iff.2 (.inr ⟨mt (hseen name k hkey).1 hfresh, ?_⟩)
        exact bind_eq_error_iff.2 (.inl (ChainConfig.decode_eq_error_iff.2 hchain))
    · rw [decodeMembers_more_of_spells hname hkey]
      refine guard_eq_error_iff.2 (.inr ⟨mt (hseen name k hkey).1 hfresh, ?_⟩)
      refine bind_eq_error_iff.2 (.inr ⟨c, ChainConfig.decode_eq_ok_iff.2 hc, ?_⟩)
      exact bind_eq_error_iff.2 (.inl hrest)

end

/-- The list is decoded as the chains that its entries list. -/
theorem decodeMembers_eq_ok_iff {members : Members} (hes : members.entries? = some es)
    (hseen : Marks seen before) :
    decodeMembers env seen members = .ok chains ↔ Lists env before es chains := by
  -- With each member the identifiers seen and the keys before grow, and still mark each other.
  induction members using Members.induction generalizing es seen before chains with
  | done ending =>
    obtain ⟨rfl, rfl⟩ := Members.entries?_done_eq_some hes
    rw [lists_nil_iff]
    show Except.ok [] = Except.ok chains ↔ _
    rw [Except.ok.injEq, eq_comm]
  | more key value raw rest ih =>
    obtain ⟨name, es', hname, hes', rfl⟩ := Members.entries?_more_eq_some hes
    rw [decodeMembers_more_eq_ok_iff hname hseen, lists_cons_iff]
    constructor
    · rintro ⟨k, c, chains', hkey, hfresh, hc, hrest, rfl⟩
      have hlists := (ih hes' (hseen.cons hkey)).1 hrest
      exact ⟨c, chains', hfresh, ⟨k, hkey, hc⟩, hlists, rfl⟩
    · rintro ⟨c, chains', hfresh, ⟨k, hkey, hc⟩, hlists, rfl⟩
      have hrest := (ih hes' (hseen.cons hkey)).2 hlists
      exact ⟨k, c, chains', hkey, hfresh, hc, hrest, rfl⟩

/-- The list is refused for the first of its offences. -/
theorem decodeMembers_eq_error_iff {members : Members} (hes : members.entries? = some es)
    (hseen : Marks seen before) :
    decodeMembers env seen members = .error e ↔ FirstOffence env before es e := by
  induction members using Members.induction generalizing es seen before with
  | done ending =>
    obtain ⟨rfl, rfl⟩ := Members.entries?_done_eq_some hes
    refine iff_of_false ?_ not_firstOffence_nil
    intro h
    cases h
  | more key value raw rest ih =>
    obtain ⟨name, es', hname, hes', rfl⟩ := Members.entries?_more_eq_some hes
    rw [decodeMembers_more_eq_error_iff hname hseen, firstOffence_cons_iff]
    refine or_congr_right ?_
    constructor
    · rintro ⟨k, c, hkey, hfresh, hc, hrest⟩
      have hbehind := (ih hes' (hseen.cons hkey)).1 hrest
      exact ⟨c, hfresh, ⟨k, hkey, hc⟩, hbehind⟩
    · rintro ⟨c, hfresh, ⟨k, hkey, hc⟩, hbehind⟩
      have hrest := (ih hes' (hseen.cons hkey)).2 hbehind
      exact ⟨k, c, hkey, hfresh, hc, hrest⟩

/-! ### Whole configurations -/

/-- Whether nobody asks for the entry of a configuration. -/
def IsIgnored (entry : Entry) : Prop := entry.1 ≠ "chains" ∧ entry.2.skip = .ok ()

/-- Whether a text is a configuration that holds `members` as its list of chains: an object with
    that one field, among entries that nobody asks for, or a list of the one field. -/
inductive Gives (s : String) (members : Members) : Prop where
  | object {outer rest pre post} (hscan : Document.scan s.toList = (.object outer, rest))
      (hrest : Decoder.onlyBlanks rest = true)
      (hentries : outer.entries? = some (pre ++ ("chains", .object members) :: post))
      (hpre : ∀ entry ∈ pre, IsIgnored entry) (hpost : ∀ entry ∈ post, IsIgnored entry) :
      Gives s members
  | list {rest}
      (hscan : Document.scan s.toList = (.array (.more (.object members) (.done .closed)), rest))
      (hrest : Decoder.onlyBlanks rest = true) : Gives s members

theorem step_of_ignored (h : IsIgnored entry) (found : Option (List ChainConfig)) :
    step env found entry.1 entry.2 = .ok found := by
  unfold step
  split
  · exact absurd ‹_› h.1
  · exact Decoder.ignored_eq_ok_iff.2 ⟨h.2, rfl⟩

theorem foldlM_ignored (h : ∀ entry ∈ es, IsIgnored entry) (found : Option (List ChainConfig)) :
    es.foldlM (fun found entry => step env found entry.1 entry.2) found = .ok found := by
  induction es with
  | nil => rfl
  | cons entry es ih =>
    obtain ⟨hentry, hes⟩ := List.forall_mem_cons.1 h
    rw [List.foldlM_cons, step_of_ignored hentry]
    exact ih hes

/-- The object around the list adds nothing to it. -/
theorem collect_of_ignored {outer members : Members} {pre post : List Entry}
    (hentries : outer.entries? = some (pre ++ ("chains", .object members) :: post))
    (hpre : ∀ entry ∈ pre, IsIgnored entry) (hpost : ∀ entry ∈ post, IsIgnored entry) :
    outer.collect (step env) none = (decodeChains env (.object members)).map some := by
  rw [Members.collect_of_entries hentries, List.foldlM_append, foldlM_ignored hpre]
  -- In front nothing is found, and behind the list it stays found.
  show (((decodeChains env (.object members)).map some) >>= fun found =>
    post.foldlM (fun found entry => step env found entry.1 entry.2) found) = _
  cases decodeChains env (.object members) with
  | error e => rfl
  | ok chains => exact foldlM_ignored hpost (some chains)

/-- A configuration is read as its list of chains is. -/
theorem read_of_gives {s : String} {members : Members} (h : Gives s members) :
    read env s = (decodeChains env (.object members)).map Config.mk := by
  cases h with
  | object hscan hrest hentries hpre hpost =>
    rw [read, Decoder.run_of_scan hscan hrest, decode, collect_of_ignored hentries hpre hpost]
    cases decodeChains env (.object members) <;> rfl
  | list hscan hrest =>
    rw [read, Decoder.run_of_scan hscan hrest, decode]
    show ((decodeChains env (.object members)).map _ >>= _) = _
    cases decodeChains env (.object members) <;> rfl

/-! ### The language -/

/-- Entries list chains if each lists one, and no key occurs twice. -/
theorem exists_lists_iff :
    (∃ chains, Lists env [] es chains) ↔
      (∀ entry ∈ es, ∃ c, ListsChain env entry c) ∧ (es.map Prod.fst).Nodup := by
  rw [← exists_forall₂_iff]
  constructor
  · rintro ⟨chains, hall, hnodup, -⟩
    exact ⟨⟨chains, hall⟩, hnodup⟩
  · rintro ⟨⟨chains, hall⟩, hnodup⟩
    exact ⟨chains, hall, hnodup, fun _ _ => List.not_mem_nil⟩

/-- **The list of chains is a language.**  Entries are decoded exactly if each lists a chain, which
    is accepted under its key, and no key occurs twice; the chains are then those of the entries,
    one each and in their order.  In any other list something is wrong with an entry, and the error
    is that of the first one.  A configuration that holds the list is read as the list is. -/
theorem language_of_entries (env : Environment) {members : Members} {es : List Entry}
    (hes : members.entries? = some es) :
    ((∃ chains, decodeChains env (.object members) = .ok chains) ↔
      (∀ entry ∈ es, ∃ c, ListsChain env entry c) ∧ (es.map Prod.fst).Nodup) ∧
    (∀ chains, decodeChains env (.object members) = .ok chains ↔
      List.Forall₂ (ListsChain env) es chains ∧ (es.map Prod.fst).Nodup) ∧
    (∀ e, decodeChains env (.object members) = .error e ↔ FirstOffence env [] es e) ∧
    ∀ s, Gives s members → read env s = (decodeChains env (.object members)).map Config.mk := by
  have hok : ∀ chains, decodeChains env (.object members) = .ok chains ↔ Lists env [] es chains :=
    fun chains => decodeMembers_eq_ok_iff hes marks_nil
  refine ⟨?_, fun chains => ?_, fun e => decodeMembers_eq_error_iff hes marks_nil, ?_⟩
  · rw [← exists_lists_iff]
    exact exists_congr hok
  · rw [hok]
    constructor
    · rintro ⟨hall, hnodup, -⟩
      exact ⟨hall, hnodup⟩
    · rintro ⟨hall, hnodup⟩
      exact ⟨hall, hnodup, fun _ _ => List.not_mem_nil⟩
  · exact fun s => read_of_gives

/-- A chain of either family, the first one again, and a key that spells no identifier. -/
def repeated : List (String × Json) :=
  [member (chainAt 1 1), member (.filecoin .testnet ⟨node 3, none⟩), member (chainAt 1 2),
    ("fil", .object [])]

/-- The list in a configuration, behind a note. -/
def repeatedJson : Json :=
  .object [("note", .string "one chain twice"), ("chains", .object repeated)]

theorem gives_repeated : Gives repeatedJson.text (Json.foundMembers repeated) := by
  have hscan : Document.scan repeatedJson.text.toList = (repeatedJson.found, some []) := by
    rw [Json.text, String.toList_ofList, Document.scan_write]
  have hnote : IsIgnored ("note", .string (.ok "one chain twice")) := ⟨by decide, rfl⟩
  have hentries : (Json.foundMembers [("note", .string "one chain twice"),
      ("chains", .object repeated)]).entries?
        = some ([("note", .string (.ok "one chain twice"))]
          ++ ("chains", .object (Json.foundMembers repeated)) :: []) :=
    Members.entries?_found _
  refine .object hscan rfl hentries ?_ fun _ h => absurd h List.not_mem_nil
  intro entry hentry
  rw [List.mem_singleton.1 hentry]
  exact hnote

/-- The repeated chain is what is wrong, not the key behind it. -/
theorem language_of_entries_repeated :
    (Json.foundMembers repeated).entries? = some (repeated.map fun m => (m.1, m.2.found)) ∧
      FirstOffence ⟨[]⟩ [] (repeated.map fun m => (m.1, m.2.found))
        (.refused "Duplicate chain: eip155:1") ∧
      read ⟨[]⟩ repeatedJson.text = .error (.refused "Duplicate chain: eip155:1") := by
  have hes := Members.entries?_found repeated
  have hdecode : decodeChains ⟨[]⟩ (.object (Json.foundMembers repeated))
      = .error (.refused "Duplicate chain: eip155:1") := by
    decide +kernel
  obtain ⟨-, -, herror, hread⟩ := language_of_entries ⟨[]⟩ hes
  refine ⟨hes, (herror _).1 hdecode, ?_⟩
  rw [hread _ gives_repeated, hdecode]
  rfl

end Config

end NonceAllocation
