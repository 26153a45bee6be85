import NonceAllocation.Proofs.Decision.Order
import NonceAllocation.Proofs.Ledger.Operations
import NonceAllocation.Proofs.Tracker.Verdict

namespace NonceAllocation

/-!
# Ledgers — what a decision does not depend on

A decision for an account reads the account's confirmed and submitted records and nothing else, and
their order does not matter:

* `Ledger.SameLive` — two ledgers with the same confirmed and submitted records of an account;
* `Ledger.Reads`, `Ledger.Alike` — what a decision may read, the records in any order, and in what
  two results may differ by that: in the record without a nonce that they name;
* `Ledger.Foreign`, `Ledger.AllForeign`, `Ledger.sameLive_after_foreign` — operations that are not
  concerned with such records, wherever in a history they stand;
* `Ledger.Noninterference`, `Ledger.noninterference` — all of it, for any account and any answer.
-/

variable {Account : Type} {bits : Nat}

namespace Ledger

/-- Whether two ledgers have the same confirmed and the same submitted records of an account. -/
def SameLive (account : Account) (l l' : Ledger Account bits) : Prop :=
  ∀ r : Record Account bits, r.IsLiveOf account → (r ∈ l.records ↔ r ∈ l'.records)

variable {l l' : Ledger Account bits} {account : Account} {r : Record Account bits}

theorem SameLive.trans {l'' : Ledger Account bits} (h : SameLive account l l')
    (h' : SameLive account l' l'') : SameLive account l l'' :=
  fun r hr => (h r hr).trans (h' r hr)

variable [DecidableEq Account]

theorem SameLive.mem_query (h : SameLive account l l') {status : Status}
    (hlive : status.isLive = true) : r ∈ l.query account status ↔ r ∈ l'.query account status := by
  rw [Ledger.mem_query, Ledger.mem_query]
  refine and_congr_left ?_
  rintro ⟨haccount, hstatus⟩
  exact h r ⟨haccount, hstatus ▸ hlive⟩

/-! ### Records read in any order -/

/-- Whether a decision for the account may read these records: its confirmed ones and its submitted
    ones, in any order. -/
structure Reads (l : Ledger Account bits) (account : Account)
    (confirmed submitted : List (Record Account bits)) : Prop where
  confirmed : confirmed.Perm (l.query account .confirmed)
  submitted : submitted.Perm (l.query account .submitted)

/-- Two results that are the same, but for which of the account's records without a nonce, all in
    one status, they name. -/
inductive Alike (l : Ledger Account bits) (account : Account) :
    Except (NonceError bits) (Nonce bits) → Except (NonceError bits) (Nonce bits) → Prop where
  | same (result : Except (NonceError bits) (Nonce bits)) : Alike l account result result
  | unnumbered (status : Status) (x y : Record Account bits) (hx : x ∈ l.query account status)
      (hxn : x.nonce = none) (hy : y ∈ l.query account status) (hyn : y.nonce = none) :
      Alike l account (.error (.inconsistent (.missingNonce x.id status)))
        (.error (.inconsistent (.missingNonce y.id status)))

variable {confirmed confirmed' submitted submitted' : List (Record Account bits)}

omit [DecidableEq Account] in
/-- Of the same records without nonces, read in two orders, each time one is found first. -/
theorem exists_firstUnnumbered_both {rs rs' : List (Record Account bits)}
    (hmem : ∀ r, r ∈ rs ↔ r ∈ rs') (h : ¬ ∀ r ∈ rs, r.nonce.isSome) :
    ∃ x y, firstUnnumbered rs = some x ∧ firstUnnumbered rs' = some y ∧ x ∈ rs ∧ y ∈ rs ∧
      x.nonce = none ∧ y.nonce = none := by
  have h' : ¬ ∀ r ∈ rs', r.nonce.isSome := fun hall => h fun r hr => hall r ((hmem r).1 hr)
  obtain ⟨x, hx, hxn, hfirst⟩ := exists_firstUnnumbered h
  obtain ⟨y, hy, hyn, hfirst'⟩ := exists_firstUnnumbered h'
  exact ⟨x, y, hfirst, hfirst', hx, (hmem y).2 hy, hxn, hyn⟩

/-- A decision on the same records, in whatever order they are read. -/
theorem alike_nextNonce (h : SameLive account l l') (hr : l.Reads account confirmed submitted)
    (hr' : l'.Reads account confirmed' submitted') (answer : Except SourceError (Nonce bits)) :
    l.Alike account (NonceAllocation.nextNonce answer confirmed submitted)
      (NonceAllocation.nextNonce answer confirmed' submitted') := by
  have hconfirmed : ∀ r, r ∈ confirmed ↔ r ∈ confirmed' := by
    intro r
    rw [hr.confirmed.mem_iff, hr'.confirmed.mem_iff, h.mem_query rfl]
  have hsubmitted : ∀ r, r ∈ submitted ↔ r ∈ submitted' := by
    intro r
    rw [hr.submitted.mem_iff, hr'.submitted.mem_iff, h.mem_query rfl]
  cases answer with
  | error e => exact .same (.error e.toNonceError)
  | ok count =>
    by_cases hnum : ∀ r ∈ confirmed, r.nonce.isSome
    · have hnum' : ∀ r ∈ confirmed', r.nonce.isSome := fun r hr => hnum r ((hconfirmed r).2 hr)
      have hfrontier := confirmedFrontier_congr hnum hnum' (mem_nonces_congr hconfirmed)
      cases hc : confirmedFrontier confirmed' with
      | error e =>
        rw [nextNonce_of_confirmedFrontier_error (hfrontier.trans hc),
          nextNonce_of_confirmedFrontier_error hc]
        exact .same _
      | ok c =>
        rw [nextNonce_of_confirmedFrontier_ok (hfrontier.trans hc),
          nextNonce_of_confirmedFrontier_ok hc]
        by_cases hnum : ∀ r ∈ submitted, r.nonce.isSome
        · have hnum' : ∀ r ∈ submitted', r.nonce.isSome :=
            fun r hr => hnum r ((hsubmitted r).2 hr)
          rw [pendingRun_congr hnum hnum' (mem_nonces_congr hsubmitted)]
          exact .same _
        · -- The scan of the submitted records names one of them without a nonce.
          obtain ⟨x, y, hfirst, hfirst', hx, hy, hxn, hyn⟩ :=
            exists_firstUnnumbered_both hsubmitted hnum
          have hxq := hr.submitted.mem_iff.1 hx
          have hyq := hr.submitted.mem_iff.1 hy
          rw [pendingRun_of_unnumbered hfirst, pendingRun_of_unnumbered hfirst',
            (Ledger.mem_query.1 hxq).2.2, (Ledger.mem_query.1 hyq).2.2]
          exact .unnumbered .submitted x y hxq hxn hyq hyn
    · -- So does the scan of the confirmed ones, before them.
      obtain ⟨x, y, hfirst, hfirst', hx, hy, hxn, hyn⟩ :=
        exists_firstUnnumbered_both hconfirmed hnum
      have hxq := hr.confirmed.mem_iff.1 hx
      have hyq := hr.confirmed.mem_iff.1 hy
      rw [nextNonce_of_confirmedFrontier_error (confirmedFrontier_of_unnumbered hfirst),
        nextNonce_of_confirmedFrontier_error (confirmedFrontier_of_unnumbered hfirst'),
        (Ledger.mem_query.1 hxq).2.2, (Ledger.mem_query.1 hyq).2.2]
      exact .unnumbered .confirmed x y hxq hxn hyq hyn

/-- A decision that tells a nonce depends on the sets of nonces only, in whatever order the records
    that hold them are read. -/
theorem nextNonce_eq_ok_of_held {answer : Except SourceError (Nonce bits)} {n : Nonce bits}
    (hconfirmed : ∀ k, k ∈ l.held account .confirmed ↔ k ∈ l'.held account .confirmed)
    (hsubmitted : ∀ k, k ∈ l.held account .submitted ↔ k ∈ l'.held account .submitted)
    (hr : l.Reads account confirmed submitted) (hr' : l'.Reads account confirmed' submitted')
    (hnum : l'.Numbered account .confirmed) (hnum' : l'.Numbered account .submitted)
    (hok : NonceAllocation.nextNonce answer confirmed submitted = .ok n) :
    NonceAllocation.nextNonce answer confirmed' submitted' = .ok n := by
  refine nextNonce_eq_ok_congr hok (fun k => ?_) (fun k => ?_) (fun r hmem => ?_) (fun r hmem => ?_)
  · rw [mem_nonces_congr (fun _ => hr.confirmed.mem_iff), mem_nonces_congr
      (fun _ => hr'.confirmed.mem_iff)]
    exact hconfirmed k
  · rw [mem_nonces_congr (fun _ => hr.submitted.mem_iff), mem_nonces_congr
      (fun _ => hr'.submitted.mem_iff)]
    exact hsubmitted k
  · exact hnum r (hr'.confirmed.mem_iff.1 hmem)
  · exact hnum' r (hr'.submitted.mem_iff.1 hmem)

/-- The records are kept in one order, so that they are read in one. -/
theorem SameLive.nextNonce_eq (h : SameLive account l l')
    (answer : Except SourceError (Nonce bits)) :
    l.nextNonce account answer = l'.nextNonce account answer := by
  have hquery : ∀ status, status.isLive = true → l.query account status = l'.query account status :=
    fun status hlive => records_eq_of_mem_iff (l.sorted.filter _) (l'.sorted.filter _)
      fun r => h.mem_query hlive
  rw [Ledger.nextNonce, Ledger.nextNonce, hquery .confirmed rfl, hquery .submitted rfl]

/-! ### Operations on other records -/

/-- Whether the operation is not concerned with what a decision for the account reads: neither what
    it finds under its id nor what it leaves there is a live record of the account. -/
def Foreign (account : Account) (l : Ledger Account bits) (op : Op Account bits) : Prop :=
  ∀ id, op.id? = some id →
    (∀ x, l.get? id = some x → ¬ x.IsLiveOf account) ∧
      ∀ x, (l.perform op).2.get? id = some x → ¬ x.IsLiveOf account

/-- Whether all operations are, each on the ledger that those before it have left. -/
def AllForeign (account : Account) (l : Ledger Account bits) : List (Op Account bits) → Prop
  | [] => True
  | op :: ops => l.Foreign account op ∧ (l.perform op).2.AllForeign account ops

theorem sameLive_perform_foreign {op : Op Account bits} (h : l.Foreign account op) :
    SameLive account (l.perform op).2 l := by
  intro r hr
  rw [← get?_self_iff, ← get?_self_iff]
  by_cases hid : op.id? = some r.id
  · obtain ⟨hbefore, hafter⟩ := h r.id hid
    constructor
    · exact fun hget => absurd hr (hafter r hget)
    · exact fun hget => absurd hr (hbefore r hget)
  · rw [get?_perform_of_ne hid]

theorem sameLive_after_foreign {ops : List (Op Account bits)} (h : l.AllForeign account ops) :
    SameLive account (l.after ops) l := by
  induction ops generalizing l with
  | nil => exact fun _ _ => Iff.rfl
  | cons op ops ih => exact (ih h.2).trans (sameLive_perform_foreign h.1)

/-- What follows does not bring out a difference that was not there. -/
theorem SameLive.perform (h : SameLive account l l') (op : Op Account bits) :
    SameLive account (l.perform op).2 (l'.perform op).2 := by
  intro r hr
  rw [← get?_self_iff, ← get?_self_iff, get?_perform, get?_perform]
  cases op.left? r.id with
  | some left => rfl
  | none =>
    show l.get? r.id = some r ↔ l'.get? r.id = some r
    rw [get?_self_iff, get?_self_iff]
    exact h r hr

theorem SameLive.after (h : SameLive account l l') (ops : List (Op Account bits)) :
    SameLive account (l.after ops) (l'.after ops) := by
  induction ops generalizing l l' with
  | nil => exact h
  | cons op ops ih => exact ih (h.perform op)

/-! ### Everything together -/

/-- What a decision for the account does not depend on: the records of other accounts, those that
    are neither confirmed nor submitted, and any order. -/
structure Noninterference (account : Account) (answer : Except SourceError (Nonce bits)) :
    Prop where
  /-- Records of other accounts, records that are neither confirmed nor submitted, and the order in
      which the others are read. -/
  live : ∀ (l l' : Ledger Account bits) (confirmed confirmed' submitted submitted'),
    SameLive account l l' → l.Reads account confirmed submitted →
    l'.Reads account confirmed' submitted' →
    l.Alike account (NonceAllocation.nextNonce answer confirmed submitted)
      (NonceAllocation.nextNonce answer confirmed' submitted')
  /-- If it tells a nonce: all but the sets of confirmed and of submitted nonces. -/
  sets : ∀ (l l' : Ledger Account bits) (confirmed confirmed' submitted submitted')
      (n : Nonce bits),
    (∀ k, k ∈ l.held account .confirmed ↔ k ∈ l'.held account .confirmed) →
    (∀ k, k ∈ l.held account .submitted ↔ k ∈ l'.held account .submitted) →
    l.Reads account confirmed submitted → l'.Reads account confirmed' submitted' →
    l'.Numbered account .confirmed → l'.Numbered account .submitted →
    NonceAllocation.nextNonce answer confirmed submitted = .ok n →
    NonceAllocation.nextNonce answer confirmed' submitted' = .ok n
  /-- Operations on other records, wherever in a history they stand. -/
  foreign : ∀ (l : Ledger Account bits) (before others later : List (Op Account bits)),
    (l.after before).AllForeign account others →
    SameLive account (l.after (before ++ others ++ later)) (l.after (before ++ later)) ∧
      (l.after (before ++ others ++ later)).nextNonce account answer =
        (l.after (before ++ later)).nextNonce account answer
  /-- The order of operations on different ids. -/
  reordered : ∀ (l : Ledger Account bits) (ops ops' : List (Op Account bits)), Reordered ops ops' →
    l.after ops = l.after ops'
  /-- Requests and guards of trackers whose ledgers have the same live records of the account. -/
  requests : ∀ (t t' : Tracker Account bits) (outcome outcome' : Outcome bits),
    SameLive account t.ledger t'.ledger → t.Answers account answer outcome →
    t'.Answers account answer outcome' → outcome = outcome'

/-- **A decision depends on the account's own live records alone.**  Whatever else is in the ledger,
    and in whatever order its records are read or were written, the result is the same, but that it
    may name another of the account's records without a nonce. -/
theorem noninterference (account : Account) (answer : Except SourceError (Nonce bits)) :
    Noninterference account answer where
  live l l' confirmed confirmed' submitted submitted' h hr hr' := alike_nextNonce h hr hr' answer
  sets l l' confirmed confirmed' submitted submitted' n hconfirmed hsubmitted hr hr' hnum hnum'
      hok :=
    nextNonce_eq_ok_of_held hconfirmed hsubmitted hr hr' hnum hnum' hok
  foreign l before others later h := by
    have hsame : SameLive account (l.after (before ++ others ++ later))
        (l.after (before ++ later)) := by
      rw [after_append, after_append, after_append]
      exact (sameLive_after_foreign h).after later
    exact ⟨hsame, hsame.nextNonce_eq answer⟩
  reordered l ops ops' h := after_reordered h l
  requests t t' outcome outcome' h hout hout' := by
    rw [Tracker.outcome_of_answers hout, Tracker.outcome_of_answers hout', h.nextNonce_eq]

/-- Which of two records without a nonce is named is a matter of the order. -/
example :
    let x : Record Nat 64 := (Record.new "x" 7 0).withStatus .confirmed 0
    let y : Record Nat 64 := (Record.new "y" 7 0).withStatus .confirmed 0
    NonceAllocation.nextNonce (.ok 0) [x, y] [] =
        .error (.inconsistent (.missingNonce "x" .confirmed)) ∧
      NonceAllocation.nextNonce (.ok 0) [y, x] [] =
        .error (.inconsistent (.missingNonce "y" .confirmed)) :=
  ⟨rfl, rfl⟩

end Ledger

end NonceAllocation
