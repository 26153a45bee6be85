import NonceAllocation.Proofs.Record.RoundTrip

namespace NonceAllocation

/-!
# Records as JSON — the account of a record

The account is one field among others, and no decoder but that of the family's accounts looks at it.

* `Record.accountDocument?` — where a document has the account of a record;
* `Record.account_of_decode` — the account of a record that is decoded is decoded from there;
* `Record.textWith`, `Record.run_textWith` — a record that is written with something else for its
  account is read with what that is decoded as.
-/

namespace Record

variable {Account : Type} {bits : Nat} {format : RecordFormat Account bits}

/-! ### Reading -/

/-- The value that the document of a record has for the account: of the first member that is called
    `from`, or the second item of a list. -/
def accountDocument? : Document → Option Document
  | .object members => members.value? "from"
  | .array (.more _ (.more value _)) => some value
  | _ => none

theorem takes_from (format : RecordFormat Account bits) :
    Members.Takes (Fields.step format) "from" Fields.account format.decodeAccount where
  named s d s' h := by
    obtain ⟨account, haccount, rfl⟩ := map_eq_ok_iff.1 h
    exact Decoder.once_eq_ok_iff.1 haccount
  other s key d s' hkey h := by
    -- Each of the other members has a field of its own.
    unfold Fields.step at h
    split at h
    case h_2 => exact absurd rfl hkey
    case h_9 =>
      obtain ⟨-, rfl⟩ := Decoder.ignored_eq_ok_iff.1 h
      rfl
    all_goals
      obtain ⟨-, -, rfl⟩ := map_eq_ok_iff.1 h
      rfl

/-- The account of a record is what is decoded from the document's value for it. -/
theorem account_of_decode {d : Document} {r : Record Account bits} (h : decode format d = .ok r) :
    ∃ value, accountDocument? d = some value ∧ format.decodeAccount value = .ok r.account := by
  unfold decode at h
  split at h
  · rename_i members
    obtain ⟨s, hs, h⟩ := bind_eq_ok_iff.1 h
    -- The identifier, the account, the status and the time are needed.
    simp only [Fields.record, bind_eq_ok_iff, Decoder.needed_eq_ok_iff] at h
    obtain ⟨_, -, account, haccount, _, -, _, -, hr⟩ := h
    cases hr
    rcases (takes_from format).of_none rfl hs with ⟨-, hnone⟩ | ⟨value, a, hvalue, ha, hsome⟩
    · rw [haccount] at hnone
      cases hnone
    · rw [haccount] at hsome
      cases hsome
      exact ⟨value, hvalue, ha⟩
  · -- The account stands behind the identifier, the six other fields behind it.
    simp only [bind_eq_ok_iff] at h
    obtain ⟨⟨_, items⟩, hid, ⟨account, _⟩, haccount, _, -, _, -, _, -, _, -, _, -, _, -, _, -, hr⟩
      := h
    cases hr
    obtain ⟨first, rfl, -⟩ := Items.required_eq_ok hid
    obtain ⟨value, rfl, hvalue⟩ := Items.required_eq_ok haccount
    exact ⟨value, rfl, hvalue⟩
  · cases h

/-! ### Writing -/

/-- The format that writes the same value for every account. -/
def writing (format : RecordFormat Account bits) (j : Json) : RecordFormat Account bits :=
  { format with account := fun _ => j }

/-- The text of a record in which another value stands for the account. -/
def textWith (format : RecordFormat Account bits) (j : Json) (r : Record Account bits) : String :=
  (json (writing format j) r).text

theorem run_textWith (h : format.Lawful) {j : Json} {a : Account}
    (ha : format.decodeAccount j.found = .ok a) (r : Record Account bits) :
    (decode format).run (textWith format j r) = .ok { r with account := a } := by
  rw [textWith, Decoder.run_text]
  show decode (writing format j) (json (writing format j) r).found = _
  exact decode_found_of_account r ha h.nonce

end Record

end NonceAllocation
