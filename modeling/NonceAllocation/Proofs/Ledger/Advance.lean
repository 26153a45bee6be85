import NonceAllocation.Proofs.Ledger.Operations

namespace NonceAllocation

/-!
# Ledgers — changes after which decisions do not fall back

A decision tells the least nonce, from the node's count on, that the ledger does not exclude.  As
long as a ledger only goes on excluding what it has excluded, and the node does not go back, neither
do decisions:

* `Ledger.Excludes` — nonces up to a confirmed one, and nonces that submitted records hold;
* `Ledger.IsNextAllowed`, `Ledger.isNextAllowed_of_nextNonce` — what is told, in these terms;
* `Ledger.Keeps` — a later ledger that has kept what an earlier one excludes;
* `Ledger.IsNextAllowed.le` — the later decision is then no less than the earlier one;
* `Ledger.Advance`, `Ledger.Advance.keeps` — additions, submissions and confirmations keep it.
-/

variable {Account : Type} {bits : Nat} [DecidableEq Account]

namespace Ledger

/-- Whether no decision for the account can tell `n`. -/
def Excludes (l : Ledger Account bits) (account : Account) (n : Nonce bits) : Prop :=
  (∃ k ∈ l.held account .confirmed, n ≤ k) ∨ n ∈ l.held account .submitted

/-- The least nonce from the node's count on that is not excluded. -/
structure IsNextAllowed (l : Ledger Account bits) (account : Account) (count n : Nonce bits) :
    Prop where
  count_le : count ≤ n
  allowed : ¬ l.Excludes account n
  run : ∀ k, count ≤ k → k < n → l.Excludes account k

variable {l l' l'' : Ledger Account bits} {account : Account} {n n' count count' : Nonce bits}

theorem excludes_of_uses (h : l.Uses account n) : l.Excludes account n := by
  rcases uses_iff_mem_held.1 h with hn | hn
  · exact .inl ⟨n, hn, Nat.le_refl n.val⟩
  · exact .inr hn

/-- Neither the candidate nor the scan past the submitted records is mentioned any more. -/
theorem isNextAllowed_of_nextNonce {answer : Except SourceError (Nonce bits)}
    (h : l.nextNonce account answer = .ok n) :
    ∃ count, answer = .ok count ∧ l.IsNextAllowed account count n := by
  obtain ⟨count, c, hanswer, -, -, hc, hfree⟩ := nextNonce_eq_ok_iff.1 h
  have hcount : count.val ≤ c.val := hc.floor_le
  have hstart : c.val ≤ n.val := hfree.start_le
  refine ⟨count, hanswer, Nat.le_trans hcount hstart, ?_, ?_⟩
  · rintro (⟨k, hk, hnk⟩ | hn)
    · have hkc : k.val < c.val := hc.above k hk
      have hnk : n.val ≤ k.val := hnk
      omega
    · exact hfree.free hn
  · intro k hcountk hkn
    by_cases hck : c ≤ k
    · exact .inr (hfree.run k hck hkn)
    · -- Between the count and the candidate: there is a confirmed nonce, and the candidate is next
      -- to it.
      have hkc : k.val < c.val := Nat.lt_of_not_le hck
      have hcountk : count.val ≤ k.val := hcountk
      rcases hc.attained with rfl | ⟨j, hj, hjc⟩
      · exact absurd hcountk (Nat.not_le_of_lt hkc)
      · refine .inl ⟨j, hj, ?_⟩
        show k.val ≤ j.val
        omega

/-- Every confirmed nonce lies below what is allowed. -/
theorem IsNextAllowed.lt_of_confirmed (h : l.IsNextAllowed account count n) {k : Nonce bits}
    (hk : k ∈ l.held account .confirmed) : k < n := by
  by_contra hle
  exact h.allowed (.inl ⟨k, hk, Nat.le_of_not_lt hle⟩)

/-! ### What a later ledger has kept -/

/-- Whether `l'` has kept what `l` excludes: confirmed nonces have stayed so, and submitted ones too
    or have been confirmed. -/
structure Keeps (account : Account) (l l' : Ledger Account bits) : Prop where
  confirmed : ∀ n ∈ l.held account .confirmed, n ∈ l'.held account .confirmed
  submitted : ∀ n ∈ l.held account .submitted,
    n ∈ l'.held account .submitted ∨ n ∈ l'.held account .confirmed

namespace Keeps

theorem refl (l : Ledger Account bits) : Keeps account l l where
  confirmed _ hn := hn
  submitted _ hn := .inl hn

theorem trans (h : Keeps account l l') (h' : Keeps account l' l'') : Keeps account l l'' where
  confirmed n hn := h'.confirmed n (h.confirmed n hn)
  submitted n hn := by
    rcases h.submitted n hn with hn | hn
    · exact h'.submitted n hn
    · exact .inr (h'.confirmed n hn)

theorem excludes (h : Keeps account l l') (hn : l.Excludes account n) : l'.Excludes account n := by
  rcases hn with ⟨k, hk, hnk⟩ | hn
  · exact .inl ⟨k, h.confirmed k hk, hnk⟩
  · rcases h.submitted n hn with hn | hn
    · exact .inr hn
    · exact .inl ⟨n, hn, Nat.le_refl n.val⟩

end Keeps

/-- **A later decision is no less than an earlier one** if the node's count is not, and the ledger
    has kept what it excluded: whatever the earlier one has passed over the later one passes
    over. -/
theorem IsNextAllowed.le (h : l.IsNextAllowed account count n)
    (h' : l'.IsNextAllowed account count' n') (hcount : count ≤ count')
    (hkeeps : Keeps account l l') : n ≤ n' := by
  by_contra hlt
  have hn' : count ≤ n' := Nat.le_trans hcount h'.count_le
  exact h'.allowed (hkeeps.excludes (h.run n' hn' (Nat.lt_of_not_le hlt)))

/-- It is larger if the earlier nonce has come to be excluded. -/
theorem IsNextAllowed.lt_of_excludes (h : l.IsNextAllowed account count n)
    (h' : l'.IsNextAllowed account count' n') (hcount : count ≤ count')
    (hkeeps : Keeps account l l') (hexcluded : l'.Excludes account n) : n < n' := by
  refine Nat.lt_of_le_of_ne (h.le h' hcount hkeeps) fun heq => ?_
  rw [Unsigned.ext heq] at hexcluded
  exact h'.allowed hexcluded

/-! ### Changes that keep it -/

/-- An operation that takes nothing back from the account. -/
inductive Advance (account : Account) (l : Ledger Account bits) : Op Account bits → Prop where
  /-- A record is added under a fresh id. -/
  | added (r : Record Account bits) (hfresh : l.get? r.id = none) : Advance account l (.put r)
  /-- A record that is not confirmed is submitted.  If it is so already it may still get a nonce. -/
  | submitted (x r : Record Account bits) (hx : l.get? r.id = some x)
      (hfrom : x.status ≠ .confirmed) (hstatus : r.status = .submitted)
      (hsame : r.account = x.account)
      (hnonce : ∀ n, x.status = .submitted → x.nonce = some n → r.nonce = some n) :
      Advance account l (.put r)
  /-- A submitted record is confirmed. -/
  | confirmed (x r : Record Account bits) (hx : l.get? r.id = some x)
      (hfrom : x.status = .submitted) (hstatus : r.status = .confirmed)
      (hsame : r.account = x.account) (hnonce : r.nonce = x.nonce) : Advance account l (.put r)
  /-- What is found under the id is no submitted or confirmed record of the account. -/
  | elsewhere (op : Op Account bits)
      (hother : ∀ id x, op.id? = some id → l.get? id = some x → ¬ x.IsLiveOf account) :
      Advance account l op

/-- What becomes of a live record of the account: it stays, or a record of its account and with its
    nonce takes its place, which is in its status or has been confirmed. -/
theorem Advance.exists_successor {op : Op Account bits} (h : Advance account l op)
    {x : Record Account bits} (hx : x ∈ l.records) (hlive : x.IsLiveOf account) :
    ∃ r ∈ (l.perform op).2.records, r.account = x.account ∧
      (∀ n, x.nonce = some n → r.nonce = some n) ∧
      (r.status = x.status ∨ r.status = .confirmed) := by
  have hget : l.get? x.id = some x := get?_self_iff.2 hx
  by_cases hid : op.id? = some x.id
  · cases h with
    | added r hfresh =>
      -- The id is not fresh, for `x` has it.
      rw [← Option.some.inj hid, hfresh] at hget
      cases hget
    | submitted y r hy hfrom hstatus hsame hnonce =>
      rw [← Option.some.inj hid, hy, Option.some.injEq] at hget
      subst hget
      -- `x` is live and not confirmed.
      have hsubmitted : y.status = .submitted :=
        (Status.isLive_iff.1 hlive.2).resolve_left hfrom
      exact ⟨r, mem_put.2 (.inl rfl), hsame, fun n hn => hnonce n hsubmitted hn,
        .inl (hstatus.trans hsubmitted.symm)⟩
    | confirmed y r hy hfrom hstatus hsame hnonce =>
      rw [← Option.some.inj hid, hy, Option.some.injEq] at hget
      subst hget
      exact ⟨r, mem_put.2 (.inl rfl), hsame, fun n hn => hnonce.trans hn, .inr hstatus⟩
    | elsewhere _ hother => exact absurd hlive (hother x.id x hid hget)
  · have hstays : x ∈ (l.perform op).2.records := by
      rw [← get?_self_iff, get?_perform_of_ne hid]
      exact hget
    exact ⟨x, hstays, rfl, fun _ hn => hn, .inl rfl⟩

/-- **An advance keeps what is excluded.** -/
theorem Advance.keeps {op : Op Account bits} (h : Advance account l op) :
    Keeps account l (l.perform op).2 where
  confirmed n hn := by
    obtain ⟨x, hx, haccount, hstatus, hxn⟩ := mem_held.1 hn
    have hlive : x.IsLiveOf account := ⟨haccount, Status.isLive_iff.2 (.inl hstatus)⟩
    obtain ⟨r, hr, hsame, hnonce, hmoved⟩ := h.exists_successor hx hlive
    have hconfirmed : r.status = .confirmed := hmoved.elim (fun h => h.trans hstatus) id
    exact mem_held.2 ⟨r, hr, hsame.trans haccount, hconfirmed, hnonce n hxn⟩
  submitted n hn := by
    obtain ⟨x, hx, haccount, hstatus, hxn⟩ := mem_held.1 hn
    have hlive : x.IsLiveOf account := ⟨haccount, Status.isLive_iff.2 (.inr hstatus)⟩
    obtain ⟨r, hr, hsame, hnonce, hmoved | hmoved⟩ := h.exists_successor hx hlive
    · exact .inl (mem_held.2 ⟨r, hr, hsame.trans haccount, hmoved.trans hstatus, hnonce n hxn⟩)
    · exact .inr (mem_held.2 ⟨r, hr, hsame.trans haccount, hmoved, hnonce n hxn⟩)

end Ledger

end NonceAllocation
