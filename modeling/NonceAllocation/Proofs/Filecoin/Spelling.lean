import NonceAllocation.Proofs.Filecoin.Grammar
import NonceAllocation.Proofs.Ledger.Noninterference

namespace NonceAllocation

/-!
# Filecoin addresses — the spellings of an account

An address is its text, and a number may be written with zeros in front.  So an account that is
named by a number, or inside a namespace, has a spelling for every number of digits that has room
for it, and each of them is an address of its own.

* `FilAddress.SameTarget` — two payloads that denote the same;
* `FilAddress.eq_iff_of_sameTarget` — as many digits write a number in one way;
* `FilAddress.Spellings`, `FilAddress.spellings_of_spells` — what that comes to for two spellings of
  an account: one address, one set of records and one decision, or nothing in common.
-/

namespace FilAddress

/-- Whether two payloads of a protocol denote the same: the same number, the same number of a
    namespace and the same text behind it, or the same text. -/
inductive SameTarget : Nat → List Char → List Char → Prop where
  | number {m n : List Char} (h : Nat.ofDigitChars 10 m 0 = Nat.ofDigitChars 10 n 0) :
      SameTarget 0 m n
  | text {p : Nat} (hp : p = 1 ∨ p = 2 ∨ p = 3) (cs : List Char) : SameTarget p cs cs
  | delegated {m n sub : List Char} (hm : ∀ c ∈ m, c.isDigit = true)
      (hn : ∀ c ∈ n, c.isDigit = true)
      (h : Nat.ofDigitChars 10 m 0 = Nat.ofDigitChars 10 n 0) :
      SameTarget 4 (m ++ 'f' :: sub) (n ++ 'f' :: sub)

variable {s t : String} {network : FilNetwork} {p : Nat} {m n : List Char} {a b : FilAddress}

theorem isDigit_of_payload (h : IsPayload 0 m) : ∀ c ∈ m, c.isDigit = true := by
  cases h with
  | id _ hdigits _ => exact hdigits
  | hash hp => omega

/-- What denotes the same is the same text if it is as long: only the zeros in front are free. -/
theorem eq_iff_of_sameTarget (hm : IsPayload p m) (hn : IsPayload p n) (h : SameTarget p m n) :
    m = n ↔ m.length = n.length := by
  constructor
  · exact congrArg List.length
  · intro hlength
    cases h with
    | number h =>
      exact (ofDigitChars_inj (isDigit_of_payload hm) (isDigit_of_payload hn) hlength h).2
    | text => rfl
    | delegated hspace hspace' h =>
      rw [List.length_append, List.length_append, Nat.add_right_cancel_iff] at hlength
      rw [(ofDigitChars_inj hspace hspace' hlength h).2]

/-- What comes of two spellings that are read as two addresses. -/
structure Spellings (s t : String) (a b : FilAddress) : Prop where
  /-- They are one address exactly if they are as long. -/
  eq_iff : a = b ↔ s.length = t.length
  /-- Exactly then are the records of the first one found under the second one. -/
  found_iff :
    (∀ l : Ledger FilAddress 64, ∀ r ∈ l.records, r.account = a → r ∈ l.query b r.status) ↔
      s.length = t.length
  /-- Exactly then is everybody who asks for the second one told the decision for the first one. -/
  counted_iff : (∀ (tracker : Tracker FilAddress 64) answer outcome,
      tracker.Answers b answer outcome →
        outcome = .answered (tracker.ledger.nextNonce a answer)) ↔ s.length = t.length
  /-- Otherwise the records of the first one make no difference to the second one. -/
  unseen : s.length ≠ t.length → ∀ l l' : Ledger FilAddress 64,
    (∀ r : Record FilAddress 64, r.account ≠ a → (r ∈ l.records ↔ r ∈ l'.records)) →
      ∀ answer, l.nextNonce b answer = l'.nextNonce b answer

/-- A ledger with one record, which is submitted with the nonce zero. -/
def submittedOnce (a : FilAddress) : Ledger FilAddress 64 :=
  Ledger.empty.put (Session.assigned "a" a .zero)

theorem records_submittedOnce (a : FilAddress) :
    (submittedOnce a).records = [Session.assigned "a" a .zero] := rfl

/-- The nonce that is submitted for one address is decided for any other one. -/
theorem nextNonce_submittedOnce (h : a ≠ b) :
    (submittedOnce a).nextNonce b (.ok .zero) = .ok .zero := by
  have hquery : ∀ st, (submittedOnce a).query b st = [] := by
    intro st
    rw [Ledger.query, records_submittedOnce, List.filter_eq_nil_iff]
    intro r hr
    obtain rfl := List.mem_singleton.1 hr
    rw [decide_eq_true_eq]
    rintro ⟨hab, -⟩
    exact h hab
  rw [Ledger.nextNonce, hquery, hquery]
  decide +kernel

/-- It is not decided for the address itself. -/
theorem nextNonce_submittedOnce_self (a : FilAddress) :
    (submittedOnce a).nextNonce a (.ok .zero) ≠ .ok .zero := by
  intro h
  refine Ledger.not_uses_of_nextNonce h (Ledger.uses_put_self ?_)
  exact ⟨rfl, rfl, rfl⟩

theorem found_iff_eq :
    (∀ l : Ledger FilAddress 64, ∀ r ∈ l.records, r.account = a → r ∈ l.query b r.status) ↔
      a = b := by
  constructor
  · intro h
    have hmem := h (submittedOnce a) (Session.assigned "a" a .zero) List.mem_cons_self rfl
    exact (Ledger.mem_query.1 hmem).2.1
  · rintro rfl l r hr haccount
    exact Ledger.mem_query.2 ⟨hr, haccount, rfl⟩

theorem counted_iff_eq :
    (∀ (tracker : Tracker FilAddress 64) answer outcome,
      tracker.Answers b answer outcome →
        outcome = .answered (tracker.ledger.nextNonce a answer)) ↔ a = b := by
  constructor
  · intro h
    have hasked := h (.new (submittedOnce a)) (.ok .zero) _ (.request rfl)
    rw [Tracker.outcome_of_answers (.request rfl), Outcome.answered.injEq] at hasked
    by_contra hab
    have hother : (submittedOnce a).nextNonce b (.ok .zero) = .ok .zero :=
      nextNonce_submittedOnce hab
    exact nextNonce_submittedOnce_self a (hasked.symm.trans hother)
  · rintro rfl tracker answer outcome h
    exact Tracker.outcome_of_answers h

theorem nextNonce_congr_of_ne (h : a ≠ b) {l l' : Ledger FilAddress 64}
    (hsame : ∀ r : Record FilAddress 64, r.account ≠ a → (r ∈ l.records ↔ r ∈ l'.records))
    (answer : Except SourceError (Nonce 64)) : l.nextNonce b answer = l'.nextNonce b answer := by
  have hlive : Ledger.SameLive b l l' := by
    rintro r ⟨rfl, -⟩
    exact hsame r (Ne.symm h)
  exact hlive.nextNonce_eq answer

theorem spellings_of_eq_iff (h : a = b ↔ s.length = t.length) : Spellings s t a b where
  eq_iff := h
  found_iff := found_iff_eq.trans h
  counted_iff := counted_iff_eq.trans h
  unseen hne _ _ hsame answer := nextNonce_congr_of_ne (mt h.1 hne) hsame answer

/-- **The spellings of an account.**  Two texts with the same network, the same protocol and
    payloads that denote the same are accounts of the network.  They are one account, with the same
    records and the same decisions, exactly if they are as long, which is to say that the number in
    them is written with as many digits; otherwise neither is known under the other. -/
theorem spellings_of_spells (hs : Spells s network p m) (ht : Spells t network p n)
    (h : SameTarget p m n) :
    ∃ a b, (filecoin network).readAccount s = .ok a ∧ (filecoin network).readAccount t = .ok b ∧
      Spellings s t a b := by
  obtain ⟨a, ha, rfl, rfl, rfl⟩ := exists_of_spells hs
  obtain ⟨b, hb, hnetwork, hnumber, rfl⟩ := exists_of_spells ht
  have hprotocol : b.protocol = a.protocol := FilProtocol.number_inj hnumber
  obtain ⟨letter, hsList, -, -, hm⟩ := hs
  obtain ⟨letter', htList, -, -, hn⟩ := ht
  have hlength : s.length = t.length ↔ a.payload.toList.length = b.payload.toList.length := by
    rw [← String.length_toList, hsList, ← String.length_toList, htList]
    simp
  have heq : a = b ↔ s.length = t.length := by
    rw [hlength, ← eq_iff_of_sameTarget hm hn h, String.toList_inj, FilAddress.ext_iff]
    simp [hnetwork, hprotocol]
  exact ⟨a, b, readAccount_eq_ok_iff.2 ⟨ha, rfl⟩, readAccount_eq_ok_iff.2 ⟨hb, hnetwork⟩,
    spellings_of_eq_iff heq⟩

theorem spellings_of_spells_delegated :
    Spells "f410fa" .mainnet 4 ['1', '0', 'f', 'a'] ∧
      Spells "f4010fa" .mainnet 4 ['0', '1', '0', 'f', 'a'] ∧
      SameTarget 4 ['1', '0', 'f', 'a'] ['0', '1', '0', 'f', 'a'] ∧
      ∃ a b, (filecoin .mainnet).readAccount "f410fa" = .ok a ∧
        (filecoin .mainnet).readAccount "f4010fa" = .ok b ∧ Spellings "f410fa" "f4010fa" a b := by
  have hsub : ∀ c ∈ ['a'], IsBase32 c := List.forall_mem_singleton.2 (by decide)
  have hten : ∀ c ∈ ['1', '0'], c.isDigit = true := List.all_eq_true.1 rfl
  have hten' : ∀ c ∈ ['0', '1', '0'], c.isDigit = true := List.all_eq_true.1 rfl
  have hs : Spells "f410fa" .mainnet 4 (['1', '0'] ++ 'f' :: ['a']) :=
    ⟨'f', by decide, .main, by decide, .delegated (by decide) hten (by decide) hsub⟩
  have ht : Spells "f4010fa" .mainnet 4 (['0', '1', '0'] ++ 'f' :: ['a']) :=
    ⟨'f', by decide, .main, by decide, .delegated (by decide) hten' (by decide) hsub⟩
  have h : SameTarget 4 (['1', '0'] ++ 'f' :: ['a']) (['0', '1', '0'] ++ 'f' :: ['a']) :=
    .delegated hten hten' (by decide)
  exact ⟨hs, ht, h, spellings_of_spells hs ht h⟩

/-- The actor with the number 1. -/
def firstActor : FilAddress := ⟨.mainnet, .id, "1", by decide⟩

/-- The same actor, with a zero in front of its number. -/
def firstActorPadded : FilAddress := ⟨.mainnet, .id, "01", by decide⟩

/-- The two spellings of an actor are two addresses, and the nonce that is submitted for it under
    the one is decided once more under the other. -/
theorem one_actor_spelled_twice :
    read "f01" = .ok firstActor ∧ read "f001" = .ok firstActorPadded ∧
      firstActor.network = firstActorPadded.network ∧
      firstActor.protocol = .id ∧ firstActorPadded.protocol = .id ∧
      SameTarget 0 firstActor.payload.toList firstActorPadded.payload.toList ∧
      firstActor ≠ firstActorPadded ∧
      (submittedOnce firstActor).query firstActorPadded .submitted = [] ∧
      (submittedOnce firstActor).nextNonce firstActorPadded (.ok .zero) = .ok .zero := by
  have hne : firstActor ≠ firstActorPadded := by decide
  have hsame : SameTarget 0 firstActor.payload.toList firstActorPadded.payload.toList :=
    .number (by decide)
  exact ⟨by decide, by decide, rfl, rfl, rfl, hsame, hne, by decide, nextNonce_submittedOnce hne⟩

end FilAddress

end NonceAllocation
