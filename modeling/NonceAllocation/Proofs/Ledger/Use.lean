import Mathlib.Data.List.Nodup
import NonceAllocation.Proofs.Decision.Scan

namespace NonceAllocation

/-!
# Ledgers — the nonces that an account has used

A nonce of an account is used once a record of the account that is submitted or confirmed holds it.

* `Ledger.mem_put`, `Ledger.eq_of_id_eq` — the records after one is stored; one record per id;
* `Ledger.held` — the nonces that an account's records in a status hold;
* `Ledger.Uses`, `Ledger.uses_iff_mem_held` — the used nonces;
* `Ledger.Admits`, `Ledger.Uses.put` — writes that take no used nonce away: additions under a fresh
  id, confirmations, and changes of records that are neither submitted nor confirmed;
* `Ledger.not_uses_of_nextNonce` — what is decided on one ledger is not used there.
-/

variable {Account : Type} {bits : Nat}

namespace Ledger

variable {l : Ledger Account bits} {r x y : Record Account bits}

/-! ### Records by their ids -/

theorem id_ne_of_lt {s t : String} (h : s < t) : t ≠ s := fun heq =>
  String.lt_irrefl _ (heq ▸ h)

/-- The order of ids leaves no room for two records with one id. -/
theorem nodup_ids (l : Ledger Account bits) : (l.records.map Record.id).Nodup := by
  rw [List.Nodup, List.pairwise_map]
  exact l.sorted.imp fun h => (id_ne_of_lt h).symm

theorem eq_of_id_eq (hx : x ∈ l.records) (hy : y ∈ l.records) (h : x.id = y.id) : x = y :=
  List.inj_on_of_nodup_map l.nodup_ids hx hy h

theorem mem_place_iff {xs : List (Record Account bits)}
    (h : xs.Pairwise (fun a b => a.id < b.id)) :
    y ∈ place r xs ↔ y = r ∨ y ∈ xs ∧ y.id ≠ r.id := by
  induction xs with
  | nil => simp [place]
  | cons x xs ih =>
    obtain ⟨hx, hxs⟩ := List.pairwise_cons.1 h
    rw [place]
    split
    · -- `r` stands before all others, none of which has its id.
      rename_i hlt
      have hall : ∀ z ∈ x :: xs, z.id ≠ r.id := by
        intro z hz
        rcases List.mem_cons.1 hz with rfl | hz
        · exact id_ne_of_lt hlt
        · exact id_ne_of_lt (String.lt_trans hlt (hx z hz))
      rw [List.mem_cons]
      exact or_congr_right ⟨fun hy => ⟨hy, hall y hy⟩, And.left⟩
    · split
      · -- `r` takes the place of `x`.
        rename_i heq
        have hall : ∀ z ∈ xs, z.id ≠ r.id := fun z hz => heq ▸ id_ne_of_lt (hx z hz)
        rw [List.mem_cons, List.mem_cons]
        refine or_congr_right ⟨fun hy => ⟨.inr hy, hall y hy⟩, ?_⟩
        rintro ⟨rfl | hy, hid⟩
        · exact absurd heq.symm hid
        · exact hy
      · rename_i hid
        rw [List.mem_cons, ih hxs, List.mem_cons]
        constructor
        · rintro (rfl | rfl | ⟨hy, hy'⟩)
          · exact .inr ⟨.inl rfl, Ne.symm hid⟩
          · exact .inl rfl
          · exact .inr ⟨.inr hy, hy'⟩
        · rintro (rfl | ⟨rfl | hy, hy'⟩)
          · exact .inr (.inl rfl)
          · exact .inl rfl
          · exact .inr (.inr ⟨hy, hy'⟩)

/-- After `r` is stored there are `r` and the records with other ids. -/
@[simp] theorem mem_put : y ∈ (l.put r).records ↔ y = r ∨ y ∈ l.records ∧ y.id ≠ r.id :=
  mem_place_iff l.sorted

theorem get?_eq_some_iff {id : String} : l.get? id = some r ↔ r ∈ l.records ∧ r.id = id := by
  constructor
  · intro h
    exact ⟨List.mem_of_find?_eq_some h, by simpa using List.find?_some h⟩
  · rintro ⟨hr, rfl⟩
    cases hget : l.get? r.id with
    | none =>
      rw [get?, List.find?_eq_none] at hget
      exact absurd (by simp) (hget r hr)
    | some s =>
      have hs : s ∈ l.records := List.mem_of_find?_eq_some hget
      have hid : s.id = r.id := by simpa using List.find?_some hget
      rw [eq_of_id_eq hs hr hid]

theorem get?_eq_none_iff {id : String} : l.get? id = none ↔ ∀ r ∈ l.records, r.id ≠ id := by
  simp [get?]

end Ledger

/-! ### Used nonces -/

/-- Whether a record in this stage uses its nonce. -/
def Status.isLive : Status → Bool
  | .submitted | .confirmed => true
  | _ => false

theorem Status.isLive_iff {st : Status} : st.isLive = true ↔ st = .confirmed ∨ st = .submitted := by
  cases st <;> simp [isLive]

/-- Whether a decision for the account reads the record. -/
def Record.IsLiveOf (r : Record Account bits) (account : Account) : Prop :=
  r.account = account ∧ r.status.isLive = true

/-- Whether the record uses `n` for `account`. -/
def Record.Uses (r : Record Account bits) (account : Account) (n : Nonce bits) : Prop :=
  r.account = account ∧ r.status.isLive = true ∧ r.nonce = some n

namespace Ledger

variable {l : Ledger Account bits} {r x y : Record Account bits} {account : Account}
  {n : Nonce bits}

/-- A nonce that a submitted or confirmed record of the account holds. -/
def Uses (l : Ledger Account bits) (account : Account) (n : Nonce bits) : Prop :=
  ∃ r ∈ l.records, r.Uses account n

/-- Whether storing `r` takes no used nonce away: a record with its id that is live stays so, with
    its account and its nonce. -/
def Admits (l : Ledger Account bits) (r : Record Account bits) : Prop :=
  ∀ x ∈ l.records, x.id = r.id → x.status.isLive = true →
    r.status.isLive = true ∧ r.account = x.account ∧ r.nonce = x.nonce

instance [DecidableEq Account] (l : Ledger Account bits) (r : Record Account bits) :
    Decidable (l.Admits r) :=
  inferInstanceAs (Decidable (∀ x ∈ l.records, _ → _ → _ ∧ _ ∧ _))

/-- A record under a fresh id is admitted, whatever it is. -/
theorem admits_of_fresh (h : l.get? r.id = none) : l.Admits r :=
  fun x hx hid => absurd hid (get?_eq_none_iff.1 h x hx)

/-- A confirmation of a record that is there is admitted. -/
theorem admits_of_confirms (hx : x ∈ l.records) (hid : r.id = x.id)
    (haccount : r.account = x.account) (hnonce : r.nonce = x.nonce)
    (hstatus : r.status = .confirmed) : l.Admits r := by
  intro y hy hy' _
  rw [hid] at hy'
  rw [eq_of_id_eq hy hx hy']
  exact ⟨Status.isLive_iff.2 (.inl hstatus), haccount, hnonce⟩

/-- What was used stays used. -/
theorem Uses.put (hu : l.Uses account n) (h : l.Admits r) : (l.put r).Uses account n := by
  obtain ⟨x, hx, haccount, hlive, hnonce⟩ := hu
  by_cases hid : x.id = r.id
  · obtain ⟨hlive', haccount', hnonce'⟩ := h x hx hid hlive
    exact ⟨r, mem_put.2 (.inl rfl), haccount'.trans haccount, hlive', hnonce'.trans hnonce⟩
  · exact ⟨x, mem_put.2 (.inr ⟨hx, hid⟩), haccount, hlive, hnonce⟩

/-- A stored record uses its nonce. -/
theorem uses_put_self (h : r.Uses account n) : (l.put r).Uses account n :=
  ⟨r, mem_put.2 (.inl rfl), h⟩

/-! ### Queries -/

variable [DecidableEq Account] {st : Status}

@[simp] theorem mem_query :
    r ∈ l.query account st ↔ r ∈ l.records ∧ r.account = account ∧ r.status = st := by
  simp [query]

/-- The nonces that the account's records in a status hold. -/
def held (l : Ledger Account bits) (account : Account) (st : Status) : List (Nonce bits) :=
  nonces (l.query account st)

theorem mem_held :
    n ∈ l.held account st ↔
      ∃ r ∈ l.records, r.account = account ∧ r.status = st ∧ r.nonce = some n := by
  simp [held, and_assoc]

/-- Whether all records of the account in a status have nonces. -/
def Numbered (l : Ledger Account bits) (account : Account) (st : Status) : Prop :=
  ∀ r ∈ l.query account st, r.nonce.isSome

instance : Decidable (l.Numbered account st) :=
  inferInstanceAs (Decidable (∀ r ∈ l.query account st, _))

theorem uses_iff_mem_held :
    l.Uses account n ↔ n ∈ l.held account .confirmed ∨ n ∈ l.held account .submitted := by
  rw [mem_held, mem_held]
  constructor
  · rintro ⟨r, hr, haccount, hlive, hnonce⟩
    rcases Status.isLive_iff.1 hlive with hst | hst
    · exact .inl ⟨r, hr, haccount, hst, hnonce⟩
    · exact .inr ⟨r, hr, haccount, hst, hnonce⟩
  · rintro (⟨r, hr, haccount, hst, hnonce⟩ | ⟨r, hr, haccount, hst, hnonce⟩)
    · exact ⟨r, hr, haccount, Status.isLive_iff.2 (.inl hst), hnonce⟩
    · exact ⟨r, hr, haccount, Status.isLive_iff.2 (.inr hst), hnonce⟩

end Ledger

/-! ### Decisions -/

/-- A decided nonce lies past all confirmed nonces of the first read, and no submitted record of the
    second holds it. -/
theorem not_mem_of_nextNonce {answer : Except SourceError (Nonce bits)}
    {confirmed submitted : List (Record Account bits)} {n : Nonce bits}
    (h : nextNonce answer confirmed submitted = .ok n) :
    n ∉ nonces confirmed ∧ n ∉ nonces submitted := by
  obtain ⟨count, c, -, -, -, hc, hfree⟩ := nextNonce_eq_ok_iff.1 h
  refine ⟨fun hn => ?_, hfree.free⟩
  have hlt := Unsigned.lt_def.1 (hc.above n hn)
  have hle := Unsigned.le_def.1 hfree.start_le
  omega

/-- **What is decided on one ledger is not used there**, whatever the node has answered. -/
theorem Ledger.not_uses_of_nextNonce [DecidableEq Account] {l : Ledger Account bits}
    {account : Account} {answer : Except SourceError (Nonce bits)} {n : Nonce bits}
    (h : l.nextNonce account answer = .ok n) : ¬ l.Uses account n := by
  obtain ⟨hconfirmed, hsubmitted⟩ := not_mem_of_nextNonce h
  rw [uses_iff_mem_held]
  rintro (hn | hn)
  · exact hconfirmed hn
  · exact hsubmitted hn

end NonceAllocation
