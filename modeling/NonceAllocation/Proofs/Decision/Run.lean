import Mathlib.Data.Finset.Card
import Mathlib.Data.Finset.Dedup
import NonceAllocation.Proofs.Decision.Order

namespace NonceAllocation

/-!
# Decisions — the run of submitted nonces, turn by turn

The scan of the submitted records, for every list of them and every start:

* `Scans` — the turns that the scan takes, one for each nonce it passes, and what it comes to;
* `exists_scans`, `Scans.unique` — it comes to an end from everywhere, and in one way;
* `ahead`, `Scans.turns_le` — each turn leaves one held nonce less ahead, which bounds their number;
* `Scans.val_of_ok` — the nonce that is told lies as far from the start as there were turns;
* `IsLeastFree.again`, `mem_nonces_iff_of_more` — from its end on the scan stays there, and records
  that hold nothing new between start and end do not move it;
* `StopsAtFree`, `stopsAtFree_pendingRun` — all of it.
-/

variable {Account : Type} {bits : Nat}

/-! ### Turns -/

/-- The turns that a scan of the held nonces takes from a nonce on, and what it comes to. -/
inductive Scans (held : List (Nonce bits)) :
    Nonce bits → Nat → Except (Inconsistency bits) (Nonce bits) → Prop where
  /-- At a nonce that is not held the scan is over. -/
  | free {n : Nonce bits} (hn : n ∉ held) : Scans held n 0 (.ok n)
  /-- A held nonce is passed. -/
  | pass {n m : Nonce bits} {turns : Nat} {result : Except (Inconsistency bits) (Nonce bits)}
      (hn : n ∈ held) (hm : n.next? = some m) (rest : Scans held m turns result) :
      Scans held n (turns + 1) result
  /-- The turn that would pass the largest nonce of all fails. -/
  | overflow {n : Nonce bits} (hn : n ∈ held) (hm : n.next? = none) :
      Scans held n 1 (.error (.overflow n))

section

variable {held : List (Nonce bits)} {n m start : Nonce bits} {turns turns' : Nat}
  {result result' : Except (Inconsistency bits) (Nonce bits)}

/-- From everywhere the scan comes to its end, with the nonce or the failure that it tells. -/
theorem exists_scans (held : List (Nonce bits)) (start : Nonce bits) :
    ∃ turns, Scans held start turns (firstFree held start) := by
  fun_induction firstFree held start with
  | case1 n hn m hm ih =>
    obtain ⟨turns, rest⟩ := ih
    exact ⟨turns + 1, .pass hn hm rest⟩
  | case2 n hn hm => exact ⟨1, .overflow hn hm⟩
  | case3 n hn => exact ⟨0, .free hn⟩

/-- There is no choice in any turn. -/
theorem Scans.unique (h : Scans held n turns result) (h' : Scans held n turns' result') :
    turns = turns' ∧ result = result' := by
  induction h generalizing turns' with
  | free hn =>
    cases h' with
    | free => exact ⟨rfl, rfl⟩
    | pass hn' => exact absurd hn' hn
    | overflow hn' => exact absurd hn' hn
  | pass hn hm rest ih =>
    cases h' with
    | free hn' => exact absurd hn hn'
    | pass hn' hm' rest' =>
      rw [hm, Option.some.injEq] at hm'
      subst hm'
      obtain ⟨hturns, hresult⟩ := ih rest'
      exact ⟨congrArg (· + 1) hturns, hresult⟩
    | overflow hn' hm' => simp [hm] at hm'
  | overflow hn hm =>
    cases h' with
    | free hn' => exact absurd hn hn'
    | pass hn' hm' => simp [hm] at hm'
    | overflow => exact ⟨rfl, rfl⟩

/-! ### How many turns -/

/-- The held nonces from `n` on, each of them once. -/
def ahead (held : List (Nonce bits)) (n : Nonce bits) : Finset (Nonce bits) :=
  held.toFinset.filter fun k => n ≤ k

@[simp] theorem mem_ahead {k : Nonce bits} : k ∈ ahead held n ↔ k ∈ held ∧ n ≤ k := by
  simp [ahead]

/-- Behind a held nonce one less lies ahead. -/
theorem card_ahead_of_next (hn : n ∈ held) (hm : n.next? = some m) :
    (ahead held n).card = (ahead held m).card + 1 := by
  have hval : m.val = n.val + 1 := Unsigned.next?_eq_some_iff.1 hm
  have hahead : ahead held n = insert n (ahead held m) := by
    ext k
    rw [Finset.mem_insert, mem_ahead, mem_ahead, Unsigned.le_def, Unsigned.le_def,
      Unsigned.ext_iff]
    constructor
    · rintro ⟨hk, hle⟩
      by_cases heq : k.val = n.val
      · exact .inl heq
      · exact .inr ⟨hk, by omega⟩
    · rintro (heq | ⟨hk, hle⟩)
      · rw [Unsigned.ext heq]
        exact ⟨hn, Nat.le_refl _⟩
      · exact ⟨hk, by omega⟩
  have hnot : n ∉ ahead held m := by
    rw [mem_ahead, Unsigned.le_def]
    omega
  rw [hahead, Finset.card_insert_of_notMem hnot]

/-- There are no more turns than there are held nonces ahead, however often each of them occurs. -/
theorem Scans.turns_le (h : Scans held n turns result) : turns ≤ (ahead held n).card := by
  induction h with
  | free hn => exact Nat.zero_le _
  | pass hn hm rest ih =>
    rw [card_ahead_of_next hn hm]
    omega
  | overflow hn hm => exact Finset.card_pos.2 ⟨_, mem_ahead.2 ⟨hn, Nat.le_refl _⟩⟩

/-- Each turn is a step of one. -/
theorem Scans.val_of_ok (h : Scans held start turns (.ok n)) : n.val = start.val + turns := by
  generalize hresult : Except.ok n = result at h
  induction h with
  | free hn =>
    cases hresult
    rfl
  | pass hn hm rest ih =>
    have hval := Unsigned.next?_eq_some_iff.1 hm
    have := ih hresult
    omega
  | overflow hn hm => cases hresult

/-- The scan is told by its turns: it takes some number of them, within the bound, and no other run
    of it is possible. -/
theorem scans_firstFree (held : List (Nonce bits)) (start : Nonce bits) :
    ∃ turns ≤ (ahead held start).card, ∀ turns' result,
      Scans held start turns' result ↔ turns' = turns ∧ result = firstFree held start := by
  obtain ⟨turns, h⟩ := exists_scans held start
  refine ⟨turns, h.turns_le, fun turns' result => ⟨fun h' => h'.unique h, ?_⟩⟩
  rintro ⟨rfl, rfl⟩
  exact h

/-- The nonce that is told lies behind no more nonces than are held ahead. -/
theorem IsLeastFree.val_le (h : IsLeastFree held start n) :
    n.val ≤ start.val + (ahead held start).card := by
  obtain ⟨turns, hscan⟩ := exists_scans held start
  rw [firstFree_eq_ok_iff.2 h] at hscan
  have := hscan.turns_le
  have := hscan.val_of_ok
  omega

/-! ### Scanned again -/

/-- From its end on the scan has nothing to pass. -/
theorem IsLeastFree.again (h : IsLeastFree held start n) : IsLeastFree held n n where
  start_le := Nat.le_refl _
  free := h.free
  run _ hk hlt := absurd hlt (Nat.not_lt_of_le hk)

/-- Between the start and the end nothing is new if further records hold what is held already, or
    what lies outside. -/
theorem mem_nonces_iff_of_more {rs rs' : List (Record Account bits)} {k : Nonce bits}
    (hsub : rs ⊆ rs')
    (hmore : ∀ r ∈ rs', ∃ j, r.nonce = some j ∧ (j ∈ nonces rs ∨ j < start ∨ n < j))
    (hstart : start ≤ k) (hend : k ≤ n) : k ∈ nonces rs ↔ k ∈ nonces rs' := by
  rw [mem_nonces, mem_nonces]
  constructor
  · rintro ⟨r, hr, hk⟩
    exact ⟨r, hsub hr, hk⟩
  · rintro ⟨r, hr, hk⟩
    obtain ⟨j, hj, hcase⟩ := hmore r hr
    obtain rfl : j = k := Option.some.inj (hj.symm.trans hk)
    rcases hcase with hheld | hlt | hlt
    · exact mem_nonces.1 hheld
    · exact absurd hstart (Nat.not_le_of_lt hlt)
    · exact absurd hend (Nat.not_le_of_lt hlt)

end

/-! ### Everything together -/

/-- What the scan of submitted records from `start` on comes to. -/
structure StopsAtFree (rs : List (Record Account bits)) (start : Nonce bits)
    (result : Except (Inconsistency bits) (Nonce bits)) : Prop where
  /-- The first record without a nonce is named, wherever it stands and the run would end. -/
  of_unnumbered : ∀ r, firstUnnumbered rs = some r → result = .error (.missingNonce r.id r.status)
  /-- The scan ends, in one way, after no more turns than there are different nonces ahead. -/
  scans : (∀ r ∈ rs, r.nonce.isSome) → ∃ turns ≤ (ahead (nonces rs) start).card,
    ∀ turns' result', Scans (nonces rs) start turns' result' ↔ turns' = turns ∧ result' = result
  /-- It fails exactly when all nonces from the start on are held. -/
  overflow_iff : (∀ r ∈ rs, r.nonce.isSome) →
    (result = .error (.overflow .top) ↔ ∀ k, start ≤ k → k ∈ nonces rs)
  /-- Otherwise it tells a nonce. -/
  exists_ok : (∀ r ∈ rs, r.nonce.isSome) → ∀ k, start ≤ k → k ∉ nonces rs → ∃ n, result = .ok n
  /-- The nonce is the least free one. -/
  least : ∀ n, result = .ok n → IsLeastFree (nonces rs) start n
  /-- It is no further from the start than there are different nonces ahead. -/
  near : ∀ n, result = .ok n → n.val ≤ start.val + (ahead (nonces rs) start).card
  /-- It stays the same with the records in any order and repeated, and with further ones at nonces
      that are held already, lie before the start or beyond it. -/
  stable : ∀ n, result = .ok n → ∀ rs' : List (Record Account bits), rs ⊆ rs' →
    (∀ r ∈ rs', ∃ k, r.nonce = some k ∧ (k ∈ nonces rs ∨ k < start ∨ n < k)) →
    pendingRun rs' start = .ok n
  again : ∀ n, result = .ok n → pendingRun rs n = .ok n

/-- **The first free nonce, and no further.**  For every list of records and every start the scan
    ends within as many turns as there are different nonces ahead.  It names the first record
    without a nonce; failing that, it tells the least nonce from the start on that none of them
    holds, or an overflow if there is none. -/
theorem stopsAtFree_pendingRun (rs : List (Record Account bits)) (start : Nonce bits) :
    StopsAtFree rs start (pendingRun rs start) where
  of_unnumbered r hr := pendingRun_of_unnumbered hr
  scans hnum := by
    rw [pendingRun_of_numbered hnum]
    exact scans_firstFree (nonces rs) start
  overflow_iff hnum := by
    rw [pendingRun_of_numbered hnum, firstFree_eq_error_iff, and_iff_right rfl]
  exists_ok hnum k hk hfree := by
    obtain ⟨n, hn⟩ := exists_isLeastFree hk hfree
    exact ⟨n, pendingRun_eq_ok_iff.2 ⟨hnum, hn⟩⟩
  least n hok := (pendingRun_eq_ok_iff.1 hok).2
  near n hok := (pendingRun_eq_ok_iff.1 hok).2.val_le
  stable n hok rs' hsub hmore := by
    obtain ⟨hnum, hfree⟩ := pendingRun_eq_ok_iff.1 hok
    have hnum' : ∀ r ∈ rs', r.nonce.isSome := by
      intro r hr
      obtain ⟨k, hk, -⟩ := hmore r hr
      rw [hk]
      rfl
    exact pendingRun_eq_ok_iff.2
      ⟨hnum', hfree.of_within fun k hstart hend => mem_nonces_iff_of_more hsub hmore hstart hend⟩
  again n hok := by
    obtain ⟨hnum, hfree⟩ := pendingRun_eq_ok_iff.1 hok
    exact pendingRun_eq_ok_iff.2 ⟨hnum, hfree.again⟩

end NonceAllocation
