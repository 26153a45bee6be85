import Mathlib.Logic.Relation
import NonceAllocation.Proofs.Ledger.Use
import NonceAllocation.Tracker.Session

namespace NonceAllocation

/-!
# Ledgers — confirmations between the two reads of a decision

A decision reads the confirmed records first and the submitted ones after them.  A record that is
confirmed in between is in neither read:

* `Ledger.Confirms`, `Ledger.Confirmations` — records of an account go from submitted to confirmed;
* `Ledger.Confirmations.uses_iff` — no nonce is used less or more by that;
* `Ledger.nextNonceAcross` — the decision when its two reads see different ledgers;
* `Ledger.unused_across_reads_iff` — it tells only unused nonces exactly when every nonce that was
  lost between the reads is behind a gap;
* `Ledger.unused_of_lost_lt_count` — so it does if the node has counted what was confirmed;
* `Ledger.reused_across_reads` — a schedule on which it tells a used nonce;
* `Ledger.unused_of_submitted_first` — with the reads in the other order it never does.
-/

variable {Account : Type} {bits : Nat}

namespace Ledger

/-- A submitted record of the account becomes a confirmed one of the same id, account and nonce. -/
inductive Confirms (account : Account) (l : Ledger Account bits) : Ledger Account bits → Prop where
  | confirm (x r : Record Account bits) (hx : x ∈ l.records) (haccount : x.account = account)
      (hsubmitted : x.status = .submitted) (hid : r.id = x.id) (hsame : r.account = x.account)
      (hnonce : r.nonce = x.nonce) (hconfirmed : r.status = .confirmed) :
      Confirms account l (l.put r)

/-- Any number of such moves, one after the other. -/
def Confirmations (account : Account) : Ledger Account bits → Ledger Account bits → Prop :=
  Relation.ReflTransGen (Confirms account)

variable {l l' l₁ l₂ : Ledger Account bits} {account : Account} {n : Nonce bits}

/-! ### What a confirmation keeps -/

/-- A submitted record after a confirmation was there before. -/
theorem Confirms.mem_of_submitted (h : Confirms account l l') {y : Record Account bits}
    (hy : y ∈ l'.records) (hstatus : y.status = .submitted) : y ∈ l.records := by
  cases h with
  | confirm x r hx haccount hsubmitted hid hsame hnonce hconfirmed =>
    rcases mem_put.1 hy with rfl | ⟨hy, -⟩
    · rw [hconfirmed] at hstatus
      cases hstatus
    · exact hy

theorem Confirms.uses_iff (h : Confirms account l l') (a : Account) :
    l'.Uses a n ↔ l.Uses a n := by
  cases h with
  | confirm x r hx haccount hsubmitted hid hsame hnonce hconfirmed =>
    constructor
    · -- What `r` uses `x` has used.
      rintro ⟨y, hy, hya, hlive, hyn⟩
      rcases mem_put.1 hy with rfl | ⟨hy, -⟩
      · exact ⟨x, hx, hsame.symm.trans hya, Status.isLive_iff.2 (.inr hsubmitted),
          hnonce.symm.trans hyn⟩
      · exact ⟨y, hy, hya, hlive, hyn⟩
    · exact fun hu => hu.put (admits_of_confirms hx hid hsame hnonce hconfirmed)

theorem Confirmations.mem_of_submitted (h : Confirmations account l l') {y : Record Account bits}
    (hy : y ∈ l'.records) (hstatus : y.status = .submitted) : y ∈ l.records := by
  induction h with
  | refl => exact hy
  | tail _ hstep ih => exact ih (hstep.mem_of_submitted hy hstatus)

/-- Confirmations neither free a nonce nor use a further one. -/
theorem Confirmations.uses_iff (h : Confirmations account l l') (a : Account) :
    l'.Uses a n ↔ l.Uses a n := by
  induction h with
  | refl => rfl
  | tail _ hstep ih => exact (hstep.uses_iff a).trans ih

/-- A confirmed record stays as it is. -/
theorem Confirms.mem_of_confirmed (h : Confirms account l l') {y : Record Account bits}
    (hy : y ∈ l.records) (hstatus : y.status = .confirmed) : y ∈ l'.records := by
  cases h with
  | confirm x r hx haccount hsubmitted hid hsame hnonce hconfirmed =>
    -- The record that is replaced is a submitted one.
    refine mem_put.2 (.inr ⟨hy, fun heq => ?_⟩)
    rw [eq_of_id_eq hy hx (heq.trans hid), hsubmitted] at hstatus
    cases hstatus

theorem Confirmations.mem_of_confirmed (h : Confirmations account l l') {y : Record Account bits}
    (hy : y ∈ l.records) (hstatus : y.status = .confirmed) : y ∈ l'.records := by
  induction h with
  | refl => exact hy
  | tail _ hstep ih => exact hstep.mem_of_confirmed ih hstatus

variable [DecidableEq Account]

theorem Confirmations.numbered (h : Confirmations account l l')
    (hnum : l.Numbered account .submitted) : l'.Numbered account .submitted := by
  intro r hr
  obtain ⟨hr, haccount, hstatus⟩ := mem_query.1 hr
  exact hnum r (mem_query.2 ⟨h.mem_of_submitted hr hstatus, haccount, hstatus⟩)

/-! ### Decisions across two reads -/

/-- The next nonce of `account` when the first read sees `l₁` and the second one `l₂`. -/
def nextNonceAcross (l₁ l₂ : Ledger Account bits) (account : Account)
    (answer : Except SourceError (Nonce bits)) : Except (NonceError bits) (Nonce bits) :=
  NonceAllocation.nextNonce answer (l₁.query account .confirmed) (l₂.query account .submitted)

/-- Without a write in between it is the decision on one ledger. -/
theorem nextNonceAcross_self (l : Ledger Account bits) (account : Account)
    (answer : Except SourceError (Nonce bits)) :
    l.nextNonceAcross l account answer = l.nextNonce account answer := rfl

/-- The nonces that submitted records held at the first read and hold no more at the second. -/
def Lost (l₁ l₂ : Ledger Account bits) (account : Account) (n : Nonce bits) : Prop :=
  n ∈ l₁.held account .submitted ∧ n ∉ l₂.held account .submitted

/-- A decided nonce is used at the first read only if it was lost after it. -/
theorem uses_iff_lost {answer : Except SourceError (Nonce bits)}
    (h : l₁.nextNonceAcross l₂ account answer = .ok n) :
    l₁.Uses account n ↔ Lost l₁ l₂ account n := by
  obtain ⟨hconfirmed, hsubmitted⟩ := not_mem_of_nextNonce h
  rw [uses_iff_mem_held]
  constructor
  · rintro (hn | hn)
    · exact absurd hn hconfirmed
    · exact ⟨hn, hsubmitted⟩
  · rintro ⟨hn, -⟩
    exact .inr hn

/-- A node that has counted all that was confirmed between the reads keeps the decision sound. -/
theorem unused_of_lost_lt_count {count : Nonce bits}
    (hcount : ∀ k, Lost l₁ l₂ account k → k < count)
    (h : l₁.nextNonceAcross l₂ account (.ok count) = .ok n) : ¬ l₁.Uses account n := by
  intro hu
  obtain ⟨count', c, hanswer, -, -, hc, hfree⟩ := nextNonce_eq_ok_iff.1 h
  cases hanswer
  have hlt : n.val < count.val := hcount n ((uses_iff_lost h).1 hu)
  have hle : count.val ≤ n.val := Nat.le_trans hc.floor_le hfree.start_le
  omega

/-- **When a decision across two reads is sound.**  Let all confirmed and submitted records of the
    account have nonces at the first read, and let some of them be confirmed before the second.
    What is in use is the same at both reads, and the decision tells a used nonce exactly if that
    nonce was lost between them.  It never does so exactly when there is a gap before every lost
    nonce that is no less than the candidate: a nonce, also no less than the candidate, that no
    submitted record holds at the second read. -/
theorem unused_across_reads_iff (count : Nonce bits) (hconfirmed : l₁.Numbered account .confirmed)
    (hsubmitted : l₁.Numbered account .submitted) (h : Confirmations account l₁ l₂) :
    (∀ n, l₁.Uses account n ↔ l₂.Uses account n) ∧
    (∀ n, l₁.nextNonceAcross l₂ account (.ok count) = .ok n →
      (l₁.Uses account n ↔ Lost l₁ l₂ account n)) ∧
    ((∀ n, l₁.nextNonceAcross l₂ account (.ok count) = .ok n → ¬ l₁.Uses account n) ↔
      ∀ c k, IsFrontier (l₁.held account .confirmed) count c → Lost l₁ l₂ account k → c ≤ k →
        ∃ j, c ≤ j ∧ j < k ∧ j ∉ l₂.held account .submitted) := by
  refine ⟨fun n => (h.uses_iff account).symm, fun n hn => uses_iff_lost hn, ?_⟩
  constructor
  · intro hunused c k hc hlost hle
    by_contra hgap
    -- Without a gap the scan runs up to the lost nonce and stops there.
    have hrun : ∀ j, c ≤ j → j < k → j ∈ l₂.held account .submitted := by
      intro j hcj hjk
      by_contra hj
      exact hgap ⟨j, hcj, hjk, hj⟩
    have hk : l₁.nextNonceAcross l₂ account (.ok count) = .ok k :=
      nextNonce_eq_ok_iff.2
        ⟨count, c, rfl, hconfirmed, h.numbered hsubmitted, hc, ⟨hle, hlost.2, hrun⟩⟩
    exact hunused k hk ((uses_iff_lost hk).2 hlost)
  · -- The scan passes over no gap, and so it does not get to a lost nonce behind one.
    intro hgap n hn hu
    obtain ⟨count', c, hcount, -, -, hc, hfree⟩ := nextNonce_eq_ok_iff.1 hn
    cases hcount
    obtain ⟨j, hcj, hjn, hj⟩ := hgap c n hc ((uses_iff_lost hn).1 hu) hfree.start_le
    exact hj (hfree.run j hcj hjn)

/-! ### A confirmation that is seen by neither read -/

/-- Two submitted records of one account, at the nonces 0 and 1. -/
def twoSubmitted : Ledger Nat 64 :=
  .ofList [Session.assigned "a" 7 0, Session.assigned "b" 7 1]

/-- The first of them is confirmed. -/
def oneConfirmed : Ledger Nat 64 :=
  twoSubmitted.put ((Session.assigned "a" 7 0).withStatus .confirmed 0)

theorem confirmations_twoSubmitted : Confirmations 7 twoSubmitted oneConfirmed :=
  .single (.confirm (Session.assigned "a" 7 0) _ (by decide) rfl rfl rfl rfl rfl rfl)

theorem unused_across_reads_iff_twoSubmitted :
    twoSubmitted.Numbered 7 .confirmed ∧ twoSubmitted.Numbered 7 .submitted ∧
      Confirmations 7 twoSubmitted oneConfirmed ∧
      -- With a count past both nonces the decision is sound.
      ∀ n, twoSubmitted.nextNonceAcross oneConfirmed 7 (.ok 2) = .ok n →
        ¬ twoSubmitted.Uses 7 n := by
  have hconfirmed : twoSubmitted.Numbered 7 .confirmed := by decide
  have hsubmitted : twoSubmitted.Numbered 7 .submitted := by decide
  have hiff := (unused_across_reads_iff 2 hconfirmed hsubmitted confirmations_twoSubmitted).2.2
  refine ⟨hconfirmed, hsubmitted, confirmations_twoSubmitted, hiff.2 ?_⟩
  rintro c k hc ⟨hk, -⟩ hck
  have htwo : (2 : Nonce 64) ≤ k := Nat.le_trans hc.floor_le hck
  have hheld : twoSubmitted.held 7 .submitted = [0, 1] := by decide
  rw [hheld] at hk
  rcases List.mem_cons.1 hk with rfl | hk
  · exact absurd htwo (by decide)
  · rw [List.mem_singleton.1 hk] at htwo
    exact absurd htwo (by decide)

/-- The node's count lags behind at 0.  The first read finds nothing confirmed, the second one only
    the nonce 1, and the decision tells the nonce 0, which a record of the account holds all the
    time. -/
theorem reused_across_reads :
    twoSubmitted.Numbered 7 .confirmed ∧ twoSubmitted.Numbered 7 .submitted ∧
      Confirmations 7 twoSubmitted oneConfirmed ∧
      twoSubmitted.nextNonceAcross oneConfirmed 7 (.ok 0) = .ok 0 ∧
      twoSubmitted.Uses 7 0 ∧ oneConfirmed.Uses 7 0 := by
  have huses : twoSubmitted.Uses 7 0 := ⟨Session.assigned "a" 7 0, by decide, rfl, rfl, rfl⟩
  exact ⟨by decide, by decide, confirmations_twoSubmitted, by decide +kernel, huses,
    (confirmations_twoSubmitted.uses_iff 7).2 huses⟩

/-! ### The other order of reads -/

/-- **Submitted records read first.**  A record that is confirmed between the reads is then in both
    of them, and no used nonce is told, whatever the node has answered. -/
theorem unused_of_submitted_first {answer : Except SourceError (Nonce bits)}
    (h : Confirmations account l₁ l₂) (hn : l₂.nextNonceAcross l₁ account answer = .ok n) :
    ¬ l₁.Uses account n := by
  obtain ⟨hconfirmed, hsubmitted⟩ := not_mem_of_nextNonce hn
  rw [uses_iff_mem_held]
  rintro (hmem | hmem)
  · -- What was confirmed at the first read still is at the second.
    obtain ⟨r, hr, haccount, hstatus, hnonce⟩ := mem_held.1 hmem
    exact hconfirmed (mem_held.2 ⟨r, h.mem_of_confirmed hr hstatus, haccount, hstatus, hnonce⟩)
  · exact hsubmitted hmem

end Ledger

end NonceAllocation
