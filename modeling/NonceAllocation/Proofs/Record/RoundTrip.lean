import NonceAllocation.Proofs.Json.Fields
import NonceAllocation.Record.Format

namespace NonceAllocation

/-!
# Records as JSON — what is written is read

* `Timestamp.decode_found`, `Status.decode_found`, `EvmAddress.decode_found`,
  `FilAddress.decode_found`, `Quantity.decode_found` — the fields' values;
* `RecordFormat.Lawful` — a family reads the accounts and nonces that it writes;
* `Record.run_text` — then it reads its records;
* `Record.text_round_trip` — as both families do, and what was read is written as the same text.
-/

/-! ### Fields -/

theorem Timestamp.decode_found (t : Timestamp) : decode t.json.found = .ok t :=
  Decoder.parsed_found (mapError_eq_ok_iff.2 (Unsigned.read_text t))

theorem Status.decode_found (st : Status) : decode st.json.found = .ok st := by
  cases st <;> rfl

theorem EvmAddress.decode_found (a : EvmAddress) : decode a.json.found = .ok a :=
  bind_eq_ok_iff.2 ⟨a.text, rfl, mapError_eq_ok_iff.2 (readLoose_text a)⟩

theorem FilAddress.decode_found (a : FilAddress) : decode a.json.found = .ok a :=
  Decoder.parsed_found (mapError_eq_ok_iff.2 (read_text a))

theorem Quantity.decode_found {bits : Nat} (n : Unsigned bits) :
    decode bits (json n).found = .ok n := by
  refine bind_eq_ok_iff.2 ⟨text n, rfl, ?_⟩
  rw [read?_text]

/-! ### Families -/

variable {Account : Type} {bits : Nat} {format : RecordFormat Account bits}

/-- Accounts and nonces are decoded as what was written. -/
structure RecordFormat.Lawful (format : RecordFormat Account bits) : Prop where
  account : ∀ a, format.decodeAccount (format.account a).found = .ok a
  nonce : ∀ n, format.decodeNonce (format.nonce n).found = .ok n

theorem lawful_evmRecords : evmRecords.Lawful := ⟨EvmAddress.decode_found, Quantity.decode_found⟩

theorem lawful_filecoinRecords : filecoinRecords.Lawful :=
  ⟨FilAddress.decode_found, Decoder.unsigned_found (Nat.le_refl 64)⟩

/-! ### Records -/

namespace Record

open Members

/-- The walk along a written record finds its fields, those that are absent among them, and the
    account that is decoded from what is written of its own. -/
theorem collect_json (r : Record Account bits) {a : Account}
    (haccount : format.decodeAccount (format.account r.account).found = .ok a)
    (hnonce : ∀ n, format.decodeNonce (format.nonce n).found = .ok n) :
    ∃ members, json format r = .object members ∧
      (Json.foundMembers members).collect (Fields.step format) {} = .ok
        { id := some r.id
          account := some a
          status := some r.status
          nonce := r.nonce.map some
          created := some r.created
          submitted := r.submitted.map some
          confirmed := r.confirmed.map some
          txHash := r.txHash.map some } := by
  refine ⟨_, rfl, ?_⟩
  rw [collect_found]
  refine Eq.trans (collect_required (fun _ => rfl) (Decoder.text_found r.id)) ?_
  refine Eq.trans (collect_required (fun _ => rfl) haccount) ?_
  refine Eq.trans (collect_required (fun _ => rfl) r.status.decode_found) ?_
  refine Eq.trans (collect_optional (fun _ => rfl) rfl fun n _ => hnonce n) ?_
  refine Eq.trans (collect_required (fun _ => rfl) r.created.decode_found) ?_
  refine Eq.trans (collect_optional (fun _ => rfl) rfl fun t _ => t.decode_found) ?_
  refine Eq.trans (collect_optional (fun _ => rfl) rfl fun t _ => t.decode_found) ?_
  exact collect_optional (fun _ => rfl) rfl fun s _ => Decoder.text_found s

theorem decode_found_of_account (r : Record Account bits) {a : Account}
    (haccount : format.decodeAccount (format.account r.account).found = .ok a)
    (hnonce : ∀ n, format.decodeNonce (format.nonce n).found = .ok n) :
    decode format (json format r).found = .ok { r with account := a } := by
  obtain ⟨members, hjson, hmembers⟩ := collect_json r haccount hnonce
  rw [hjson, Json.found, decode, hmembers]
  show Except.ok _ = Except.ok _
  simp only [join_map_some]

theorem decode_found (h : format.Lawful) (r : Record Account bits) :
    decode format (json format r).found = .ok r :=
  decode_found_of_account r (h.account r.account) h.nonce

/-- A record is read from its text. -/
theorem run_text (h : format.Lawful) (r : Record Account bits) :
    (decode format).run (json format r).text = .ok r := by
  rw [Decoder.run_text, decode_found h]

theorem text_again (h : format.Lawful) {r r' : Record Account bits}
    (hr' : (decode format).run (json format r).text = .ok r') :
    (json format r').text = (json format r).text := by
  rw [run_text h, Except.ok.injEq] at hr'
  rw [hr']

/-- **Records survive JSON.**  The text of a record of either family is read as the record, and
    what is read from it is written as the same text. -/
theorem text_round_trip :
    (∀ r : Record EvmAddress 256,
      (decode evmRecords).run (json evmRecords r).text = .ok r ∧
      ∀ r', (decode evmRecords).run (json evmRecords r).text = .ok r' →
        (json evmRecords r').text = (json evmRecords r).text) ∧
    (∀ r : Record FilAddress 64,
      (decode filecoinRecords).run (json filecoinRecords r).text = .ok r ∧
      ∀ r', (decode filecoinRecords).run (json filecoinRecords r).text = .ok r' →
        (json filecoinRecords r').text = (json filecoinRecords r).text) :=
  ⟨fun r => ⟨run_text lawful_evmRecords r, fun _ => text_again lawful_evmRecords⟩,
    fun r => ⟨run_text lawful_filecoinRecords r, fun _ => text_again lawful_filecoinRecords⟩⟩

end Record

end NonceAllocation
