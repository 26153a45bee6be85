import Std.Data.String.ToNat
import NonceAllocation.Proofs.Chain.Text
import NonceAllocation.Proofs.Text.Digits

namespace NonceAllocation

/-!
# References — chain identifiers of the two families

An EVM chain has one identifier, but is recognized in all that spell its number: with leading zeros
and with a plus.  A Filecoin network is recognized in its own identifier alone.

* `EvmChain.ofId_eq_ok_iff`, `EvmChain.ofId_eq_error_iff` — the identifiers of EVM chains;
* `FilNetwork.ofId_eq_ok_iff`, `FilNetwork.ofId_eq_error_iff` — those of Filecoin networks;
* `EvmChain.id_inj`, `FilNetwork.id_inj`, `EvmChain.id_ne_network` — two chains, two identifiers;
* `ReferenceFormat`, `ReferenceFormat.Laws` — a family's references, and what holds of them;
* `ReferenceFormat.references_of_ids` — both families.
-/

/-- An identifier that comes back from its text comes back from its JSON. -/
theorem ChainId.run_json {i : ChainId} (h : read i.text = .ok i) : decode.run i.json.text = .ok i :=
  run_eq_ok_iff.2 ⟨i.text, run_text_json i, h⟩

/-! ### EVM chains -/

namespace EvmChain

variable {i : ChainId} {c c' : EvmChain}

theorem id_inj : c.id = c'.id ↔ c = c' := by
  constructor
  · intro h
    have htext : c.number.val.repr = c'.number.val.repr := congrArg ChainId.reference h
    have hnumber : c.number = c'.number := Unsigned.ext (Nat.repr_inj.1 htext)
    exact congrArg EvmChain.mk hnumber
  · rintro rfl
    rfl

theorem ofId_eq_ok_iff :
    ofId i = .ok c ↔ i.family = evmName ∧ Unsigned.Spells i.reference c.number.val := by
  rw [ofId, ← Unsigned.read_eq_ok_iff]
  split
  · rename_i hfamily
    rw [and_iff_right hfamily]
    cases Unsigned.read 64 i.reference with
    | ok n => exact ⟨fun h => by cases h; rfl, fun h => by cases h; rfl⟩
    | error e => simp
  · rename_i hfamily
    simp [hfamily]

/-- The family is looked at first, then the reference. -/
theorem ofId_eq_error_iff {e : ReferenceFault} :
    ofId i = .error e ↔
      i.family ≠ evmName ∧ e = .otherFamily i.family evmName ∨
        i.family = evmName ∧ (∀ n : Unsigned 64, ¬ Unsigned.Spells i.reference n.val) ∧
          e = .badNumber i.reference := by
  simp only [← Unsigned.read_eq_ok_iff]
  rw [ofId]
  split
  · rename_i hfamily
    cases Unsigned.read 64 i.reference with
    | ok n => simp [hfamily]
    | error e => simp [hfamily, eq_comm]
  · rename_i hfamily
    simp [hfamily, eq_comm]

theorem ofId_id (c : EvmChain) : ofId c.id = .ok c :=
  ofId_eq_ok_iff.2 ⟨rfl, Unsigned.read_eq_ok_iff.1 (Unsigned.read_text c.number)⟩

theorem read_id (c : EvmChain) : ChainId.read c.id.text = .ok c.id := by
  have hcolon : ':' ∉ evmName.toList := by decide
  have hfamily : evmName ≠ "" := by decide
  have hreference : c.number.text ≠ "" := by
    intro h
    have hread := Unsigned.read_text c.number
    rw [h] at hread
    cases hread
  exact ChainId.read_eq_ok_iff.2 ⟨rfl, hcolon, hfamily, hreference⟩

theorem run_json (c : EvmChain) : decode.run c.json.text = .ok c := by
  have hid : ChainId.decode.run c.json.text = .ok c.id := ChainId.run_json c.read_id
  refine (Decoder.run_bind_of_ok hid).trans ?_
  rw [c.ofId_id]
  rfl

end EvmChain

/-! ### Filecoin networks -/

namespace FilNetwork

variable {i : ChainId} {n n' : FilNetwork}

theorem id_inj : n.id = n'.id ↔ n = n' := by
  cases n <;> cases n' <;> decide

theorem ofId_id (n : FilNetwork) : ofId n.id = .ok n := by
  cases n <;> rfl

theorem read_id (n : FilNetwork) : ChainId.read n.id.text = .ok n.id := by
  cases n <;> decide

theorem run_json (n : FilNetwork) : decode.run n.json.text = .ok n := by
  have hid : ChainId.decode.run n.json.text = .ok n.id := ChainId.run_json n.read_id
  refine (Decoder.run_bind_of_ok hid).trans ?_
  rw [n.ofId_id]
  rfl

/-- A network has one key. -/
theorem id_of_ofId (h : ofId i = .ok n) : n.id = i := by
  rw [ofId] at h
  split at h
  · rename_i hfamily
    split at h
    · rename_i c hreference
      rw [elim_eq_ok_iff] at h
      have hletter : n.letter = c := by
        rw [ofLetter?] at h
        split at h
        · cases h
          exact Eq.symm ‹_›
        · split at h
          · cases h
            exact Eq.symm ‹_›
          · cases h
      have htext : n.text = i.reference := by
        rw [text, hletter, ← String.toList_inj, hreference, String.toList_singleton]
      exact ChainId.ext hfamily.symm htext
    · cases h
  · cases h

theorem ofId_eq_ok_iff : ofId i = .ok n ↔ i.family = filecoinName ∧ i.reference = n.text := by
  constructor
  · intro h
    obtain rfl := id_of_ofId h
    exact ⟨rfl, rfl⟩
  · rintro ⟨hfamily, hreference⟩
    obtain rfl : n.id = i := ChainId.ext hfamily.symm hreference.symm
    exact ofId_id n

@[inherit_doc EvmChain.ofId_eq_error_iff]
theorem ofId_eq_error_iff {e : ReferenceFault} :
    ofId i = .error e ↔
      i.family ≠ filecoinName ∧ e = .otherFamily i.family filecoinName ∨
        i.family = filecoinName ∧ (∀ n : FilNetwork, i.reference ≠ n.text) ∧
          e = .badNetwork i.reference := by
  refine eq_error_iff_of_cases (q := fun e => _ ∧ e = _ ∨ _ ∧ _ ∧ e = _)
    (fun n hn => ofId_eq_ok_iff.2 hn) ?_ ?_
  · rintro e (⟨hfamily, rfl⟩ | ⟨hfamily, hreference, rfl⟩)
    · rw [ofId, if_neg hfamily]
    · cases hread : ofId i with
      | ok n => exact absurd (ofId_eq_ok_iff.1 hread).2 (hreference n)
      | error e =>
        rw [ofId, if_pos hfamily] at hread
        split at hread
        · rename_i c _
          cases hletter : ofLetter? c with
          | none =>
            rw [hletter] at hread
            exact hread.symm
          | some n =>
            rw [hletter] at hread
            cases hread
        · exact hread.symm
  · by_cases hfamily : i.family = filecoinName
    · by_cases hreference : ∃ n : FilNetwork, i.reference = n.text
      · obtain ⟨n, hn⟩ := hreference
        exact .inl ⟨n, hfamily, hn⟩
      · exact .inr ⟨_, .inr ⟨hfamily, not_exists.1 hreference, rfl⟩⟩
    · exact .inr ⟨_, .inl ⟨hfamily, rfl⟩⟩

end FilNetwork

theorem EvmChain.id_ne_network (c : EvmChain) (n : FilNetwork) : c.id ≠ n.id := by
  intro h
  have hfamily : evmName = filecoinName := congrArg ChainId.family h
  exact absurd hfamily (by decide)

/-! ### Both families -/

/-- What the references of a family are written as and read from. -/
structure ReferenceFormat (R : Type) where
  family : String
  id : R → ChainId
  ofId : ChainId → Except ReferenceFault R
  json : R → Json
  decode : Decoder R
  /-- Whether a text spells a reference. -/
  Spells : String → R → Prop
  /-- What is wrong with a text that spells none. -/
  refusal : String → ReferenceFault

namespace ReferenceFormat

variable {R : Type} {format : ReferenceFormat R}

/-- EVM chains are spelled by digits, behind a plus that may be left out. -/
def evm : ReferenceFormat EvmChain where
  family := "eip155"
  id := EvmChain.id
  ofId := EvmChain.ofId
  json := EvmChain.json
  decode := EvmChain.decode
  Spells s c := Unsigned.Spells s c.number.val
  refusal := .badNumber

/-- Filecoin networks are spelled by their letters. -/
def filecoin : ReferenceFormat FilNetwork where
  family := "fil"
  id := FilNetwork.id
  ofId := FilNetwork.ofId
  json := FilNetwork.json
  decode := FilNetwork.decode
  Spells s n := s = match n with
    | .mainnet => "f"
    | .testnet => "t"
  refusal := .badNetwork

/-- What holds of the references of a family. -/
structure Laws (format : ReferenceFormat R) : Prop where
  /-- A reference comes back from its identifier. -/
  ofId_id : ∀ r, format.ofId (format.id r) = .ok r
  /-- The identifier comes back from its text and from its JSON. -/
  read_id : ∀ r, ChainId.read (format.id r).text = .ok (format.id r)
  decode_id : ∀ r, ChainId.decode.run (format.id r).json.text = .ok (format.id r)
  /-- The reference has JSON of its own, and comes back from it. -/
  decode_json : ∀ r, format.decode.run (format.json r).text = .ok r
  ofId_iff : ∀ i r, format.ofId i = .ok r ↔ i.family = format.family ∧ format.Spells i.reference r
  /-- Another family is what is wrong, whatever the reference. -/
  otherFamily : ∀ i, i.family ≠ format.family →
    format.ofId i = .error (.otherFamily i.family format.family)
  refused : ∀ i, i.family = format.family → (¬ ∃ r, format.Spells i.reference r) →
    format.ofId i = .error (format.refusal i.reference)

theorem evm_laws : evm.Laws where
  ofId_id := EvmChain.ofId_id
  read_id := EvmChain.read_id
  decode_id c := ChainId.run_json c.read_id
  decode_json := EvmChain.run_json
  ofId_iff _ _ := EvmChain.ofId_eq_ok_iff
  otherFamily _ h := EvmChain.ofId_eq_error_iff.2 (.inl ⟨h, rfl⟩)
  refused _ hfamily hnone :=
    EvmChain.ofId_eq_error_iff.2 (.inr ⟨hfamily, fun n hn => hnone ⟨⟨n⟩, hn⟩, rfl⟩)

theorem filecoin_laws : filecoin.Laws where
  ofId_id := FilNetwork.ofId_id
  read_id := FilNetwork.read_id
  decode_id n := ChainId.run_json n.read_id
  decode_json := FilNetwork.run_json
  ofId_iff i n := by cases n <;> exact FilNetwork.ofId_eq_ok_iff
  otherFamily _ h := FilNetwork.ofId_eq_error_iff.2 (.inl ⟨h, rfl⟩)
  refused _ hfamily hnone := by
    refine FilNetwork.ofId_eq_error_iff.2 (.inr ⟨hfamily, fun n hn => hnone ⟨n, ?_⟩, rfl⟩)
    cases n <;> exact hn

/-- **References and identifiers.**  In either family a reference comes back from its identifier,
    also through text and JSON.  An identifier is one of an EVM chain if its reference is a decimal
    number of 64 bits, however many zeros it begins with, and with a plus or without; it is one of a
    Filecoin network if its reference is the network's letter.  Another family is reported before
    the reference is looked at, and no identifier belongs to both. -/
theorem references_of_ids :
    evm.Laws ∧ filecoin.Laws ∧
    (∀ i, (∃ c, EvmChain.ofId i = .ok c) ↔
      i.family = "eip155" ∧ ∃ v < 2 ^ 64, Unsigned.Spells i.reference v) ∧
    ∀ i c n, ¬ (EvmChain.ofId i = .ok c ∧ FilNetwork.ofId i = .ok n) := by
  refine ⟨evm_laws, filecoin_laws, fun i => ?_, ?_⟩
  · simp only [EvmChain.ofId_eq_ok_iff]
    constructor
    · rintro ⟨c, hfamily, hspells⟩
      exact ⟨hfamily, c.number.val, c.number.val_lt, hspells⟩
    · rintro ⟨hfamily, v, hv, hspells⟩
      exact ⟨⟨⟨v, hv⟩⟩, hfamily, hspells⟩
  · rintro i c n ⟨hevm, hfilecoin⟩
    have hfamily := (EvmChain.ofId_eq_ok_iff.1 hevm).1
    rw [(FilNetwork.ofId_eq_ok_iff.1 hfilecoin).1] at hfamily
    exact absurd hfamily (by decide)

/-- The largest number of 64 bits names a chain, and the next one does not. -/
example : (EvmChain.ofId ⟨"eip155", "+0018446744073709551615"⟩ = .ok ⟨.top⟩) ∧
    EvmChain.ofId ⟨"eip155", "18446744073709551616"⟩
      = .error (.badNumber "18446744073709551616") := by
  decide

end ReferenceFormat

end NonceAllocation
