import NonceAllocation.Proofs.Ledger.Use
import NonceAllocation.Proofs.Tracker.Step
import NonceAllocation.Tracker.Session

namespace NonceAllocation

/-!
# Trackers — the verdict of a request

What a request or a guarded question comes to, told from the ledger and the node's answer alone:

* `Verdict` — the result for every state of the ledger and every answer, the first cause of a
  failure before the later ones;
* `verdict_nextNonce` — the decision gives that result;
* `Tracker.Answers`, `Tracker.verdict_of_answers` — and so does every step of a tracker in which the
  node's answer reaches a request or a guard.
-/

variable {Account : Type} {bits : Nat} [DecidableEq Account]

/-- The result of a decision for `account`.  The node comes first, then the account's confirmed
    records, then its submitted ones; a nonce is told only if nothing is wrong with any of them. -/
structure Verdict (l : Ledger Account bits) (account : Account)
    (answer : Except SourceError (Nonce bits)) (result : Except (NonceError bits) (Nonce bits)) :
    Prop where
  /-- The nonce is the least one from the candidate on that no submitted record holds. -/
  ok_iff : ∀ n, result = .ok n ↔
    ∃ count c, answer = .ok count ∧ l.Numbered account .confirmed ∧ l.Numbered account .submitted ∧
      IsFrontier (l.held account .confirmed) count c ∧ IsLeastFree (l.held account .submitted) c n
  /-- There is one exactly when all that can be wrong is not. -/
  isOk_iff : (∃ n, result = .ok n) ↔
    ∃ count c, answer = .ok count ∧ l.Numbered account .confirmed ∧
      l.Numbered account .submitted ∧ .top ∉ l.held account .confirmed ∧
      IsFrontier (l.held account .confirmed) count c ∧
      ∃ n, c ≤ n ∧ n ∉ l.held account .submitted
  /-- A node that cannot be asked, whatever the ledger holds. -/
  of_transport : ∀ message, answer = .error (.transport message) →
    result = .error (.network message)
  /-- A node that answers with an error of its own, whatever the ledger holds. -/
  of_provider : ∀ code message, answer = .error (.provider code message) →
    result = .error (.provider code message)
  of_confirmed_unnumbered : ∀ count, answer = .ok count → ¬ l.Numbered account .confirmed →
    ∃ r ∈ l.query account .confirmed, r.nonce = none ∧
      result = .error (.inconsistent (.missingNonce r.id .confirmed))
  of_confirmed_top : ∀ count, answer = .ok count → l.Numbered account .confirmed →
    .top ∈ l.held account .confirmed → result = .error (.inconsistent (.overflow .top))
  of_submitted_unnumbered : ∀ count, answer = .ok count → l.Numbered account .confirmed →
    .top ∉ l.held account .confirmed → ¬ l.Numbered account .submitted →
    ∃ r ∈ l.query account .submitted, r.nonce = none ∧
      result = .error (.inconsistent (.missingNonce r.id .submitted))
  /-- Every nonce from the candidate on is held. -/
  of_exhausted : ∀ count c, answer = .ok count → l.Numbered account .confirmed →
    l.Numbered account .submitted → IsFrontier (l.held account .confirmed) count c →
    (∀ n, c ≤ n → n ∈ l.held account .submitted) →
    result = .error (.inconsistent (.overflow .top))

/-! ### The decision -/

/-- The first of an account's records that lacks a nonce, as a query tells them. -/
theorem exists_unnumbered_query {l : Ledger Account bits} {account : Account} {st : Status}
    (h : ¬ l.Numbered account st) :
    ∃ r ∈ l.query account st, r.nonce = none ∧ r.status = st ∧
      firstUnnumbered (l.query account st) = some r := by
  obtain ⟨r, hr, hnonce, hfirst⟩ := exists_firstUnnumbered h
  exact ⟨r, hr, hnonce, (Ledger.mem_query.1 hr).2.2, hfirst⟩

theorem verdict_nextNonce (l : Ledger Account bits) (account : Account)
    (answer : Except SourceError (Nonce bits)) :
    Verdict l account answer (l.nextNonce account answer) where
  ok_iff n := nextNonce_eq_ok_iff
  isOk_iff := by
    constructor
    · rintro ⟨n, hn⟩
      obtain ⟨count, c, hanswer, hconfirmed, hsubmitted, hc, hfree⟩ := nextNonce_eq_ok_iff.1 hn
      exact ⟨count, c, hanswer, hconfirmed, hsubmitted, hc.top_not_mem, hc, n, hfree.start_le,
        hfree.free⟩
    · -- From one free nonce on the scan ends, though maybe before it.
      rintro ⟨count, c, hanswer, hconfirmed, hsubmitted, -, hc, n, hle, hn⟩
      obtain ⟨k, hk⟩ := exists_isLeastFree hle hn
      exact ⟨k, nextNonce_eq_ok_iff.2 ⟨count, c, hanswer, hconfirmed, hsubmitted, hc, hk⟩⟩
  of_transport := by
    rintro message rfl
    rfl
  of_provider := by
    rintro code message rfl
    rfl
  of_confirmed_unnumbered := by
    rintro count rfl h
    obtain ⟨r, hr, hnonce, hstatus, hfirst⟩ := exists_unnumbered_query h
    have herror := confirmedFrontier_of_unnumbered hfirst
    rw [hstatus] at herror
    exact ⟨r, hr, hnonce, nextNonce_of_confirmedFrontier_error herror⟩
  of_confirmed_top := by
    rintro count rfl hconfirmed htop
    exact nextNonce_of_confirmedFrontier_error (confirmedFrontier_of_top_mem hconfirmed htop)
  of_submitted_unnumbered := by
    rintro count rfl hconfirmed htop h
    -- The confirmed records are in order, so that the decision gets to the submitted ones.
    obtain ⟨c, hc⟩ := exists_isFrontier htop count
    obtain ⟨r, hr, hnonce, hstatus, hfirst⟩ := exists_unnumbered_query h
    refine ⟨r, hr, hnonce, ?_⟩
    rw [Ledger.nextNonce, nextNonce_of_isFrontier hconfirmed hc, pendingRun_of_unnumbered hfirst,
      hstatus]
    rfl
  of_exhausted := by
    rintro count c rfl hconfirmed hsubmitted hc hall
    have hrun : firstFree (l.held account .submitted) c = .error (.overflow .top) :=
      firstFree_eq_error_iff.2 ⟨rfl, hall⟩
    rw [Ledger.nextNonce, nextNonce_of_isFrontier hconfirmed hc, pendingRun_of_numbered hsubmitted]
    show (firstFree (l.held account .submitted) c).mapError _ = _
    rw [hrun]
    rfl

/-! ### Requests and guards -/

namespace Tracker

/-- The outcome of a step in which the node's answer reaches who has asked for the account. -/
inductive Answers (t : Tracker Account bits) (account : Account)
    (answer : Except SourceError (Nonce bits)) : Outcome bits → Prop where
  /-- A request that meets a free lock. -/
  | request (hfree : t.isFree = true) : Answers t account answer (t.request (some answer) account).1
  /-- A request that has waited for the lock. -/
  | queued (k : Ticket) (hstage : t.stage? k = some (.queuedToAsk account))
      (hholds : t.holds k = true) : Answers t account answer (t.poll (some answer) k).1
  /-- A request that has waited for the answer. -/
  | asked (k : Ticket) (hstage : t.stage? k = some (.asking account)) :
      Answers t account answer (t.poll (some answer) k).1
  /-- A guard. -/
  | guard (k : Ticket) (hstage : t.stage? k = some .holding) :
      Answers t account answer (t.call (some answer) k account).1
  /-- A guard that has waited for the answer. -/
  | guardAsked (k : Ticket) (hstage : t.stage? k = some (.holdingAsking account)) :
      Answers t account answer (t.poll (some answer) k).1

variable {t : Tracker Account bits} {account : Account} {answer : Except SourceError (Nonce bits)}

theorem poll_of_queued {k : Ticket} (hstage : t.stage? k = some (.queuedToAsk account))
    (hholds : t.holds k = true) :
    (t.poll (some answer) k).1 = .answered (t.ledger.nextNonce account answer) := by
  simp only [poll, hstage, if_pos hholds]
  rfl

/-- Whoever has asked and is answered is told the decision on the ledger of that moment. -/
theorem outcome_of_answers {outcome : Outcome bits} (h : t.Answers account answer outcome) :
    outcome = .answered (t.ledger.nextNonce account answer) := by
  cases h with
  | request hfree =>
    -- A request joins an empty line and stands first in it.
    have hstage : (t.join (.queuedToAsk account)).2.stage? t.fresh
        = some (.queuedToAsk account) := by simp
    exact poll_of_queued hstage (holds_fresh_of_isFree _ hfree)
  | queued k hstage hholds => exact poll_of_queued hstage hholds
  | asked k hstage =>
    simp only [poll, hstage]
    rfl
  | guard k hstage =>
    rw [call_of_holding (some answer) account hstage]
    rfl
  | guardAsked k hstage =>
    simp only [poll, hstage]
    rfl

/-- **The verdict of a request.**  A step in which the node's answer reaches a request or a guard
    always has a result, the one that the ledger of that moment and the answer call for: the least
    nonce that is past the node's count and all confirmed nonces and not held by a submitted record,
    or the first thing that is wrong. -/
theorem verdict_of_answers {outcome : Outcome bits} (h : t.Answers account answer outcome) :
    ∃ result, outcome = .answered result ∧ Verdict t.ledger account answer result :=
  ⟨_, outcome_of_answers h, verdict_nextNonce t.ledger account answer⟩

/-- One confirmed record, and submitted ones out of order, twice at one nonce and behind a gap. -/
def gappedLedger : Ledger Nat 64 :=
  .ofList [
    (Session.assigned "a" 7 3).withStatus .confirmed 0,
    Session.assigned "b" 7 5,
    Session.assigned "c" 7 4,
    Session.assigned "d" 7 4,
    Session.assigned "e" 7 8]

theorem verdict_of_answers_gapped :
    (new gappedLedger).isFree = true ∧
      ∃ result, ((new gappedLedger).request (some (.ok 2)) 7).1 = .answered result ∧
        Verdict gappedLedger 7 (.ok 2) result ∧ result = .ok 6 := by
  have hfree : (new gappedLedger).isFree = true := rfl
  have hsix : gappedLedger.nextNonce 7 (.ok 2) = .ok 6 := by decide +kernel
  have hanswers : (new gappedLedger).Answers 7 (.ok 2)
      ((new gappedLedger).request (some (.ok 2)) 7).1 := .request hfree
  obtain ⟨result, hout, hverdict⟩ := verdict_of_answers hanswers
  refine ⟨hfree, result, hout, hverdict, ?_⟩
  rw [outcome_of_answers hanswers, Outcome.answered.injEq] at hout
  exact hout.symm.trans hsix

end Tracker

end NonceAllocation
