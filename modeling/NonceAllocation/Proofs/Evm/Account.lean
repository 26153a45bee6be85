import NonceAllocation.Proofs.Record.Account
import NonceAllocation.Registry

namespace NonceAllocation

/-!
# EVM addresses — the texts of an account

A tracker reads the account that it is asked for, a record the account that it belongs to, and the
two do not take the same texts.  They agree on those that both take, so that the records of an
account are found whichever of its texts is asked for.

* `EvmAddress.Refused` — what is wrong with a text that names no account, the first fault from the
  left;
* `EvmAddress.readAccount_eq_ok_iff`, `EvmAddress.readAccount_eq_error_iff` — the texts of an
  account, and what is told of any other text;
* `EvmAddress.decode_string_eq_ok_iff` — the texts of an account in a record: a few more;
* `EvmAddress.AccountText`, `EvmAddress.account_of_texts` — all of it, and the texts that records
  are written with.
-/

namespace EvmAddress

open Hex

variable {s t : String} {a b : EvmAddress} {ds : List Char} {e : AccountError}

/-! ### The texts of an account -/

/-- What is wrong with a text that names no account. -/
inductive Refused (s : String) : AccountFault → Prop where
  | marker (h : ∀ ds, s.toList ≠ '0' :: 'x' :: ds) : Refused s .missingMarker
  /-- What follows the marker does not spell twenty bytes. -/
  | digits {ds : List Char} {fault : HexFault} (hs : s.toList = '0' :: 'x' :: ds)
      (h : Misspells 20 ds fault) : Refused s (.hex fault)

theorem ofDigits_eq_error {fault : HexFault} (h : Misspells 20 ds fault) :
    ofDigits ds = .error fault := by
  have hdecode := decode_of_misspells h
  rw [ofDigits]
  split
  · rename_i bytes hbytes
    rw [hdecode] at hbytes
    cases hbytes
  · rename_i fault' hfault
    rw [hdecode, Except.error.injEq] at hfault
    rw [hfault]

theorem readAccount_of_marker (hs : s.toList = '0' :: 'x' :: ds) :
    evm.readAccount s = (ofDigits ds).mapError fun fault => ⟨evmName, s, .hex fault⟩ := by
  simp only [evm, read, hs]
  cases ofDigits ds <;> rfl

theorem readAccount_of_spells (h : ∃ ds, s.toList = '0' :: 'x' :: ds ∧ Spells ds a.bytes) :
    evm.readAccount s = .ok a := by
  obtain ⟨ds, hs, h⟩ := h
  rw [readAccount_of_marker hs, ofDigits_eq_ok_iff.2 h]
  rfl

theorem readAccount_of_refused (h : ∃ fault, e = ⟨evmName, s, fault⟩ ∧ Refused s fault) :
    evm.readAccount s = .error e := by
  obtain ⟨fault, rfl, h⟩ := h
  cases h with
  | marker h =>
    have hread : read s = .error none := by
      rw [read]
      split
      · exact absurd ‹_› (h _)
      · rfl
    simp only [evm, hread]
    rfl
  | digits hs h =>
    rw [readAccount_of_marker hs, ofDigits_eq_error h]
    rfl

theorem spells_or_refused (s : String) :
    (∃ a : EvmAddress, ∃ ds, s.toList = '0' :: 'x' :: ds ∧ Spells ds a.bytes) ∨
      ∃ e : AccountError, ∃ fault, e = ⟨evmName, s, fault⟩ ∧ Refused s fault := by
  by_cases hmarker : ∃ ds, s.toList = '0' :: 'x' :: ds
  · obtain ⟨ds, hs⟩ := hmarker
    rcases spells_or_misspells 20 ds with ⟨bytes, h, hlength⟩ | ⟨fault, h⟩
    · exact .inl ⟨⟨bytes, hlength⟩, ds, hs, h⟩
    · exact .inr ⟨_, _, rfl, .digits hs h⟩
  · exact .inr ⟨_, _, rfl, .marker fun ds hs => hmarker ⟨ds, hs⟩⟩

theorem readAccount_eq_ok_iff :
    evm.readAccount s = .ok a ↔ ∃ ds, s.toList = '0' :: 'x' :: ds ∧ Spells ds a.bytes :=
  eq_ok_iff_of_cases (fun _ => readAccount_of_spells) (fun _ => readAccount_of_refused)
    (spells_or_refused s)

theorem readAccount_eq_error_iff :
    evm.readAccount s = .error e ↔ ∃ fault, e = ⟨evmName, s, fault⟩ ∧ Refused s fault :=
  eq_error_iff_of_cases (fun _ => readAccount_of_spells) (fun _ => readAccount_of_refused)
    (spells_or_refused s)

/-- Forty digits spell an account, whatever they are. -/
theorem exists_readAccount_iff :
    (∃ a, evm.readAccount s = .ok a) ↔
      ∃ ds, s.toList = '0' :: 'x' :: ds ∧ ds.length = 40 ∧ ∀ c ∈ ds, ∃ v, IsDigitOf c v := by
  simp only [readAccount_eq_ok_iff]
  constructor
  · rintro ⟨a, ds, hs, h⟩
    refine ⟨ds, hs, ?_, exists_forall₂_iff.1 ⟨_, h.digits⟩⟩
    rw [h.length_eq, a.length_bytes]
  · rintro ⟨ds, hs, hlength, h⟩
    obtain ⟨vs, hvs⟩ := exists_forall₂_iff.2 h
    have hspells := spells_of_digits hvs (by omega)
    have hbytes := hspells.length_eq
    exact ⟨⟨pairs vs, by omega⟩, ds, hs, hspells⟩

/-- In lower case all texts of an account are the one that it is written as. -/
theorem text_of_readAccount (h : evm.readAccount s = .ok a) :
    a.text.toList = s.toList.map Char.toLower := by
  obtain ⟨ds, hs, h⟩ := readAccount_eq_ok_iff.1 h
  rw [text, String.toList_ofList, hs, ← h.toLower]
  rfl

theorem readAccount_text (a : EvmAddress) : evm.readAccount a.text = .ok a :=
  readAccount_eq_ok_iff.2 ⟨_, String.toList_ofList, spells_encode a.bytes⟩

theorem text_inj : a.text = b.text ↔ a = b := by
  constructor
  · intro h
    have hread := readAccount_text a
    rw [h, readAccount_text, Except.ok.injEq] at hread
    exact hread.symm
  · rintro rfl
    rfl

/-- Two texts of accounts differ in the case of letters only if they are of the same account. -/
theorem eq_iff_of_readAccount (hs : evm.readAccount s = .ok a) (ht : evm.readAccount t = .ok b) :
    a = b ↔ s.toList.map Char.toLower = t.toList.map Char.toLower := by
  rw [← text_of_readAccount hs, ← text_of_readAccount ht, String.toList_inj, text_inj]

/-- A tracker does not tell the texts of an account apart. -/
theorem request_congr (hs : evm.readAccount s = .ok a) (ht : evm.readAccount t = .ok a)
    (source : EvmSource) (tracker : Tracker EvmAddress 256) (network : Option Network) :
    (ChainTracker.evm source tracker).request network s
      = (ChainTracker.evm source tracker).request network t := by
  simp only [ChainTracker.request, hs, ht]

/-! ### The texts of an account in a record -/

theorem not_isDigitOf_marker (v : Nat) : ¬ IsDigitOf 'x' v ∧ ¬ IsDigitOf 'X' v := by
  have hne : ∀ c, IsDigitOf c v → c ≠ 'x' ∧ c ≠ 'X' := fun c h =>
    h.elim (p := fun c _ => c ≠ 'x' ∧ c ≠ 'X') (by decide)
  exact ⟨fun h => (hne 'x' h).1 rfl, fun h => (hne 'X' h).2 rfl⟩

/-- A marker is none of the digits. -/
theorem not_spells_marker {c d : Char} (hd : d = 'x' ∨ d = 'X') {bytes : List UInt8} :
    ¬ Spells (c :: d :: ds) bytes := by
  intro h
  cases h with
  | cons _ hdigit _ =>
    rcases hd with rfl | rfl
    · exact (not_isDigitOf_marker _).1 hdigit
    · exact (not_isDigitOf_marker _).2 hdigit

/-- Whether the text is forty digits without a marker, or with the one that no account is asked for
    with. -/
def SpellsLoosely (s : String) (a : EvmAddress) : Prop :=
  ∃ ds, (s.toList = ds ∨ s.toList = '0' :: 'X' :: ds) ∧ Spells ds a.bytes

theorem readLoose_eq_ok_iff :
    readLoose s = .ok a ↔ evm.readAccount s = .ok a ∨ SpellsLoosely s a := by
  rw [readAccount_eq_ok_iff, SpellsLoosely, readLoose]
  split
  · rename_i ds hs
    rw [ofDigits_eq_ok_iff, hs]
    constructor
    · exact fun h => .inl ⟨ds, rfl, h⟩
    · rintro (⟨ds', heq, h⟩ | ⟨ds', rfl | heq, h⟩)
      · cases heq
        exact h
      · exact absurd h (not_spells_marker (.inl rfl))
      · cases heq
  · rename_i ds hs
    rw [ofDigits_eq_ok_iff, hs]
    constructor
    · exact fun h => .inr ⟨ds, .inr rfl, h⟩
    · rintro (⟨ds', heq, -⟩ | ⟨ds', rfl | heq, h⟩)
      · cases heq
      · exact absurd h (not_spells_marker (.inr rfl))
      · cases heq
        exact h
  · rename_i hlower hupper
    rw [ofDigits_eq_ok_iff]
    constructor
    · exact fun h => .inr ⟨_, .inl rfl, h⟩
    · rintro (⟨ds, heq, -⟩ | ⟨ds, rfl | heq, h⟩)
      · exact absurd heq (hlower ds)
      · exact h
      · exact absurd heq (hupper ds)

/-- What a record has for its account is read as a text with a marker, or as one that the tracker
    would refuse. -/
theorem decode_string_eq_ok_iff {text : Scanned String} (h : text.read = .ok s) :
    decode (.string text) = .ok a ↔ evm.readAccount s = .ok a ∨ SpellsLoosely s a := by
  rw [← readLoose_eq_ok_iff, decode, bind_eq_ok_iff]
  simp only [h, checked_eq_ok_iff, Except.ok.injEq, exists_eq_left', mapError_eq_ok_iff]

/-! ### All of it -/

/-- What becomes of a text, asked for as an account or written in a record as one. -/
structure AccountText (s : String) : Prop where
  /-- It names an account exactly if it is `0x` and the digits of twenty bytes, which the account
      has. -/
  ok_iff : ∀ a, evm.readAccount s = .ok a ↔ ∃ ds, s.toList = '0' :: 'x' :: ds ∧ Spells ds a.bytes
  exists_ok_iff : (∃ a, evm.readAccount s = .ok a) ↔
    ∃ ds, s.toList = '0' :: 'x' :: ds ∧ ds.length = 40 ∧ ∀ c ∈ ds, ∃ v, IsDigitOf c v
  /-- Otherwise the first fault from the left is told. -/
  error_iff : ∀ e, evm.readAccount s = .error e ↔
    ∃ fault, e = ⟨"eip155", s, fault⟩ ∧ Refused s fault
  unmarked : (∀ ds, s.toList ≠ '0' :: 'x' :: ds) → ∀ e, evm.readAccount s = .error e →
    e.fault.message = "missing 0x prefix"
  /-- Two texts name one account exactly if they differ in the case of letters only. -/
  same_iff : ∀ t a b, evm.readAccount s = .ok a → evm.readAccount t = .ok b →
    (a = b ↔ s.toList.map Char.toLower = t.toList.map Char.toLower)
  /-- Then a tracker does the same for either of them, whatever its ledger holds and whatever is
      going on. -/
  same_requests : ∀ t a b, evm.readAccount s = .ok a → evm.readAccount t = .ok b →
    s.toList.map Char.toLower = t.toList.map Char.toLower →
    ∀ source tracker network, (ChainTracker.evm source tracker).request network s
      = (ChainTracker.evm source tracker).request network t
  /-- It is taken as the account of a record exactly if it names that account, or if it is the
      digits without a marker or behind `0X`. -/
  decoded_iff : ∀ (text : Scanned String) a, text.read = .ok s →
    (decode (.string text) = .ok a ↔ evm.readAccount s = .ok a ∨ SpellsLoosely s a)
  /-- A record that is written with it is read with the account that it names. -/
  in_record : ∀ a, evm.readAccount s = .ok a → ∀ r,
    (Record.decode evmRecords).run (Record.textWith evmRecords (.string s) r)
      = .ok { r with account := a }
  /-- The account of any record that is read with it is the one that it names, unless there is no
      marker or another one. -/
  of_record : ∀ json r (text : Scanned String), (Record.decode evmRecords).run json = .ok r →
    Record.accountDocument? (Document.scan json.toList).1 = some (.string text) →
    text.read = .ok s → evm.readAccount s = .ok r.account ∨ SpellsLoosely s r.account

theorem accountText (s : String) : AccountText s where
  ok_iff _ := readAccount_eq_ok_iff
  exists_ok_iff := exists_readAccount_iff
  error_iff _ := readAccount_eq_error_iff
  unmarked hnone e he := by
    obtain ⟨fault, rfl, hfault⟩ := readAccount_eq_error_iff.1 he
    cases hfault with
    | marker => rfl
    | digits hs => exact absurd hs (hnone _)
  same_iff _ _ _ hs ht := eq_iff_of_readAccount hs ht
  same_requests t a b hs ht hcase := by
    obtain rfl := (eq_iff_of_readAccount hs ht).2 hcase
    exact request_congr hs ht
  decoded_iff _ _ h := decode_string_eq_ok_iff h
  in_record a ha := by
    refine Record.run_textWith lawful_evmRecords ?_
    show decode (.string (.ok s)) = .ok a
    exact (decode_string_eq_ok_iff rfl).2 (.inl ha)
  of_record json r text hr htext hs := by
    obtain ⟨value, hvalue, haccount⟩ := Record.account_of_decode (Decoder.eq_ok_of_run hr)
    rw [htext, Option.some.injEq] at hvalue
    rw [← hvalue] at haccount
    exact (decode_string_eq_ok_iff hs).1 haccount

/-- **The texts of accounts.**  An account is asked for by `0x` and forty digits, and the case of
    the letters makes no difference; any other text is refused for the first thing that is wrong
    with it.  Records take these texts for the same account, and take the digits without a marker or
    behind `0X` besides; an account in a record is written as a text that it is asked for by. -/
theorem account_of_texts :
    (∀ s, AccountText s) ∧ ∀ a, a.json = .string a.text ∧ evm.readAccount a.text = .ok a :=
  ⟨accountText, fun a => ⟨rfl, readAccount_text a⟩⟩

end EvmAddress

end NonceAllocation
