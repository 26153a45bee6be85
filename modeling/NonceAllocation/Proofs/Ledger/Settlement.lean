import NonceAllocation.Proofs.Decision.Change
import NonceAllocation.Proofs.Ledger.Operations
import NonceAllocation.Proofs.Tracker.Verdict

namespace NonceAllocation

/-!
# Ledgers — a submitted record is confirmed, or withdrawn

A submitted record holds its nonce until the chain has it, or until the transaction is given up.
The decision after that is compared with the decision before it, on the same answer of the node:

* `Ledger.Submits`, `Ledger.HeldBesides` — a submitted record with its nonce, and the nonces that
  the account's other submitted records hold;
* `Ledger.Vacates` — of the submitted records that one alone is gone;
* `Ledger.AfterConfirmation`, `Ledger.afterConfirmation_nextNonce` — after its confirmation the
  decision is the same, unless the nonce lies beyond it;
* `Ledger.Withdraws`, `Ledger.nextNonce_of_withdraws` — after its removal, or its move to a stage
  that holds no nonce, the decision is the same, unless the nonce was passed over for its sake
  alone;
* `Tracker.confirmation_stable`, `Tracker.withdrawal_frees_slot` — both for requests and guards.
-/

variable {Account : Type} {bits : Nat}

namespace Ledger

/-- Whether `r` is a submitted record of the account that holds `k`. -/
structure Submits (l : Ledger Account bits) (account : Account) (r : Record Account bits)
    (k : Nonce bits) : Prop where
  mem : r ∈ l.records
  account_eq : r.account = account
  status_eq : r.status = .submitted
  nonce_eq : r.nonce = some k

/-- Whether a submitted record of the account other than `r` holds `n`. -/
def HeldBesides (l : Ledger Account bits) (account : Account) (r : Record Account bits)
    (n : Nonce bits) : Prop :=
  ∃ x ∈ l.records, x.id ≠ r.id ∧ x.account = account ∧ x.status = .submitted ∧ x.nonce = some n

/-- Whether in `l'` of all the submitted records of `l` only `r` is gone, and none has come in. -/
def Vacates (r : Record Account bits) (l l' : Ledger Account bits) : Prop :=
  ∀ y, y.status = .submitted → (y ∈ l'.records ↔ y ∈ l.records ∧ y.id ≠ r.id)

variable {l l' : Ledger Account bits} {account : Account} {r r' : Record Account bits}
  {k n n₀ count c : Nonce bits}

theorem vacates_put (hid : r'.id = r.id) (hstatus : r'.status ≠ .submitted) :
    Vacates r l (l.put r') := by
  intro y hy
  rw [mem_put, hid]
  constructor
  · rintro (rfl | hmem)
    · exact absurd hy hstatus
    · exact hmem
  · exact .inr

theorem vacates_confirmed (l : Ledger Account bits) (r : Record Account bits) (now : Timestamp) :
    Vacates r l (l.put (r.withStatus .confirmed now)) :=
  vacates_put rfl (by rintro ⟨⟩)

variable [DecidableEq Account]

theorem Submits.mem_held (h : l.Submits account r k) : k ∈ l.held account .submitted :=
  Ledger.mem_held.2 ⟨r, h.mem, h.account_eq, h.status_eq, h.nonce_eq⟩

namespace Vacates

theorem mem_held_iff (h : Vacates r l l') :
    n ∈ l'.held account .submitted ↔ l.HeldBesides account r n := by
  rw [Ledger.mem_held]
  constructor
  · rintro ⟨x, hx, haccount, hstatus, hnonce⟩
    obtain ⟨hx, hid⟩ := (h x hstatus).1 hx
    exact ⟨x, hx, hid, haccount, hstatus, hnonce⟩
  · rintro ⟨x, hx, hid, haccount, hstatus, hnonce⟩
    exact ⟨x, (h x hstatus).2 ⟨hx, hid⟩, haccount, hstatus, hnonce⟩

theorem numbered (h : Vacates r l l') (hnum : l.Numbered account .submitted) :
    l'.Numbered account .submitted := by
  intro x hx
  obtain ⟨hx, haccount, hstatus⟩ := mem_query.1 hx
  exact hnum x (mem_query.2 ⟨((h x hstatus).1 hx).1, haccount, hstatus⟩)

/-- No nonce is given up but the one of `r`. -/
theorem losesAtMost (h : Vacates r l l') (hr : l.Submits account r k) :
    LosesAtMost k (l.held account .submitted) (l'.held account .submitted) where
  mem n hn := by
    obtain ⟨x, hx, -, haccount, hstatus, hnonce⟩ := h.mem_held_iff.1 hn
    exact Ledger.mem_held.2 ⟨x, hx, haccount, hstatus, hnonce⟩
  left n hn hne := by
    obtain ⟨x, hx, haccount, hstatus, hnonce⟩ := Ledger.mem_held.1 hn
    refine h.mem_held_iff.2 ⟨x, hx, fun hid => hne ?_, haccount, hstatus, hnonce⟩
    -- A record with the id of `r` is `r`, and `r` holds `k`.
    rw [eq_of_id_eq hx hr.mem hid, hr.nonce_eq, Option.some.injEq] at hnonce
    exact hnonce.symm

end Vacates

/-- Where all records have nonces a decision is the scan of the submitted ones from the candidate
    on. -/
theorem nextNonce_eq_firstFree (hconfirmed : l.Numbered account .confirmed)
    (hsubmitted : l.Numbered account .submitted)
    (hc : IsFrontier (l.held account .confirmed) count c) :
    l.nextNonce account (.ok count)
      = (firstFree (l.held account .submitted) c).mapError .inconsistent := by
  rw [nextNonce, nextNonce_of_isFrontier hconfirmed hc, pendingRun_of_numbered hsubmitted]
  rfl

/-! ### Confirmation -/

/-- What a decision comes to after the record that held `k` was confirmed, on the answer on which it
    came to `n₀` before; `l` is the ledger before. -/
structure AfterConfirmation (l : Ledger Account bits) (account : Account) (k n₀ : Nonce bits)
    (result : Except (NonceError bits) (Nonce bits)) : Prop where
  /-- What is told is not held. -/
  ne : k ≠ n₀
  /-- Below it the decision stays, wherever the nonce lay and whoever else holds it. -/
  of_lt : k < n₀ → result = .ok n₀
  /-- Beyond it the decision is the least nonce after `k` that no submitted record holds.  If there
      is none, as when `k` is the largest nonce, that is an overflow. -/
  of_gt : n₀ < k →
    (∃ n, result = .ok n ∧ k < n ∧ n ∉ l.held account .submitted ∧
      ∀ j, k < j → j < n → j ∈ l.held account .submitted) ∨
    (result = .error (.inconsistent (.overflow .top)) ∧ ∀ j, k < j → j ∈ l.held account .submitted)
  /-- It never falls back. -/
  le : ∀ n, result = .ok n → n₀ ≤ n
  /-- No record without a nonce is met. -/
  ne_missingNonce : ∀ id status, result ≠ .error (.inconsistent (.missingNonce id status))

theorem Submits.numbered_confirmed (hr : l.Submits account r k) (now : Timestamp)
    (hnum : l.Numbered account .confirmed) :
    (l.put (r.withStatus .confirmed now)).Numbered account .confirmed := by
  intro x hx
  obtain ⟨hx, haccount, hstatus⟩ := mem_query.1 hx
  rcases mem_put.1 hx with rfl | ⟨hx, -⟩
  · show r.nonce.isSome = true
    rw [hr.nonce_eq]
    rfl
  · exact hnum x (mem_query.2 ⟨hx, haccount, hstatus⟩)

/-- The nonce of the record joins the confirmed ones. -/
theorem Submits.mem_held_confirmed (hr : l.Submits account r k) (now : Timestamp)
    (n : Nonce bits) :
    n ∈ k :: l.held account .confirmed
      ↔ n ∈ (l.put (r.withStatus .confirmed now)).held account .confirmed := by
  rw [List.mem_cons, Ledger.mem_held, Ledger.mem_held]
  constructor
  · rintro (rfl | ⟨x, hx, haccount, hstatus, hnonce⟩)
    · exact ⟨_, mem_put.2 (.inl rfl), hr.account_eq, rfl, hr.nonce_eq⟩
    · refine ⟨x, mem_put.2 (.inr ⟨hx, fun hid => ?_⟩), haccount, hstatus, hnonce⟩
      -- The record that is replaced was submitted.
      rw [eq_of_id_eq hx hr.mem hid, hr.status_eq] at hstatus
      cases hstatus
  · rintro ⟨x, hx, haccount, hstatus, hnonce⟩
    rcases mem_put.1 hx with rfl | ⟨hx, -⟩
    · have hk : r.nonce = some n := hnonce
      rw [hr.nonce_eq, Option.some.injEq] at hk
      exact .inl hk.symm
    · exact .inr ⟨x, hx, haccount, hstatus, hnonce⟩

variable {answer : Except SourceError (Nonce bits)}

/-- A nonce before the decision is confirmed: the frontier does not pass the decision, and behind
    the frontier the run has lost nothing. -/
theorem nextNonce_confirmed_of_lt (hok : l.nextNonce account answer = .ok n₀)
    (hr : l.Submits account r k) (now : Timestamp) (hk : k < n₀) :
    (l.put (r.withStatus .confirmed now)).nextNonce account answer = .ok n₀ := by
  obtain ⟨count, c, hanswer, hconfirmed, hsubmitted, hc, hfree⟩ := nextNonce_eq_ok_iff.1 hok
  have hvacates := vacates_confirmed l r now
  -- The frontier may rise past `k`, so that `k` is no more part of the run, but not past `n₀`.
  obtain ⟨d, hd, hcd, hdn, hkd⟩ := hc.exists_cons hfree.start_le hk
  have hrun := hfree.of_losesAtMost (hvacates.losesAtMost hr) hcd hdn
    fun hdk => absurd hkd (Nat.not_lt_of_le hdk)
  exact nextNonce_eq_ok_iff.2 ⟨count, d, hanswer, hr.numbered_confirmed now hconfirmed,
    hvacates.numbered hsubmitted, hd.congr (hr.mem_held_confirmed now), hrun⟩

/-- A nonce beyond the decision is confirmed: the scan starts right behind it. -/
theorem nextNonce_confirmed_of_gt (hok : l.nextNonce account answer = .ok n₀)
    (hr : l.Submits account r k) (now : Timestamp) (hk : n₀ < k) :
    (∃ n, (l.put (r.withStatus .confirmed now)).nextNonce account answer = .ok n ∧ k < n ∧
      n ∉ l.held account .submitted ∧ ∀ j, k < j → j < n → j ∈ l.held account .submitted) ∨
    ((l.put (r.withStatus .confirmed now)).nextNonce account answer
        = .error (.inconsistent (.overflow .top)) ∧
      ∀ j, k < j → j ∈ l.held account .submitted) := by
  obtain ⟨count, c, rfl, hconfirmed, hsubmitted, hc, hfree⟩ := nextNonce_eq_ok_iff.1 hok
  have hvacates := vacates_confirmed l r now
  have hlost := hvacates.losesAtMost hr
  have hnum := hr.numbered_confirmed now hconfirmed
  have hmem := hr.mem_held_confirmed now
  have hck : c ≤ k := Nat.le_trans hfree.start_le (Nat.le_of_lt hk)
  -- The largest nonce, once confirmed, has no next one.
  cases hd : k.next? with
  | none =>
    have htop : k = .top := Unsigned.next?_eq_none_iff.1 hd
    have hheld : .top ∈ (l.put (r.withStatus .confirmed now)).held account .confirmed :=
      (hmem _).1 (htop ▸ List.mem_cons_self)
    refine .inr ⟨?_, fun j hj => absurd hj (Nat.not_lt_of_le (htop ▸ Unsigned.le_top j))⟩
    exact nextNonce_of_confirmedFrontier_error (confirmedFrontier_of_top_mem hnum hheld)
  | some d =>
    have hval : d.val = k.val + 1 := Unsigned.next?_eq_some_iff.1 hd
    have hle : ∀ j, d ≤ j ↔ k < j := by
      intro j
      rw [Unsigned.le_def, Unsigned.lt_def, hval]
      exact Iff.rfl
    -- Beyond `k` nothing has been given up.
    have hheld : ∀ j, k < j → (j ∈ (l.put (r.withStatus .confirmed now)).held account .submitted
        ↔ j ∈ l.held account .submitted) := by
      intro j hj
      refine ⟨hlost.mem j, fun hmem => hlost.left j hmem ?_⟩
      rintro rfl
      exact Nat.lt_irrefl _ hj
    have hscan := nextNonce_eq_firstFree hnum (hvacates.numbered hsubmitted)
      ((hc.cons_of_next hck hd).congr hmem)
    rw [hscan]
    rcases firstFree_spec ((l.put (r.withStatus .confirmed now)).held account .submitted) d with
      ⟨n, hn, hrun⟩ | ⟨herror, hall⟩
    · have hkn : k < n := (hle n).1 hrun.start_le
      refine .inl ⟨n, by rw [hn]; rfl, hkn, fun h => hrun.free ((hheld n hkn).2 h), ?_⟩
      exact fun j hkj hjn => (hheld j hkj).1 (hrun.run j ((hle j).2 hkj) hjn)
    · refine .inr ⟨by rw [herror]; rfl, fun j hj => ?_⟩
      exact (hheld j hj).1 (hall j ((hle j).2 hj))

/-- A confirmation leaves the decision as it is, or lifts it past the confirmed nonce. -/
theorem afterConfirmation_nextNonce (hok : l.nextNonce account answer = .ok n₀)
    (hr : l.Submits account r k) (now : Timestamp) :
    AfterConfirmation l account k n₀
      ((l.put (r.withStatus .confirmed now)).nextNonce account answer) := by
  have hne : k ≠ n₀ := by
    rintro rfl
    exact (not_mem_of_nextNonce hok).2 hr.mem_held
  have hlt := nextNonce_confirmed_of_lt hok hr now
  have hgt := nextNonce_confirmed_of_gt hok hr now
  -- Either way the decision is no less than before, or there is none for want of a free nonce.
  have houtcome : (∃ n, n₀ ≤ n ∧ (l.put (r.withStatus .confirmed now)).nextNonce account answer
      = .ok n) ∨ (l.put (r.withStatus .confirmed now)).nextNonce account answer
        = .error (.inconsistent (.overflow .top)) := by
    rcases Nat.lt_or_gt_of_ne fun h => hne (Unsigned.ext h) with hk | hk
    · exact .inl ⟨n₀, Nat.le_refl _, hlt hk⟩
    · rcases hgt hk with ⟨n, hn, hkn, -⟩ | ⟨herror, -⟩
      · exact .inl ⟨n, Nat.le_of_lt (Nat.lt_trans hk hkn), hn⟩
      · exact .inr herror
  refine ⟨hne, hlt, hgt, ?_, ?_⟩
  · intro n hn
    rcases houtcome with ⟨n', hle, hn'⟩ | herror
    · rw [hn', Except.ok.injEq] at hn
      exact hn ▸ hle
    · rw [herror] at hn
      cases hn
  · intro id status hmissing
    rcases houtcome with ⟨n', -, hn'⟩ | herror
    · rw [hn'] at hmissing
      cases hmissing
    · rw [herror] at hmissing
      cases hmissing

/-! ### Withdrawal -/

omit [DecidableEq Account] in
/-- An operation that takes a submitted record out of use: it is removed, or a record in a stage
    that holds no nonce takes its place. -/
inductive Withdraws (r : Record Account bits) : Op Account bits → Prop where
  | removed : Withdraws r (.remove r.id)
  | replaced (x : Record Account bits) (hid : x.id = r.id) (hstatus : x.status.isLive = false) :
      Withdraws r (.put x)

/-- The other submitted and confirmed records stay as they are, and none comes in. -/
theorem Withdraws.mem_iff {op : Op Account bits} (h : Withdraws r op) {y : Record Account bits}
    (hy : y.status.isLive = true) :
    y ∈ (l.perform op).2.records ↔ y ∈ l.records ∧ y.id ≠ r.id := by
  cases h with
  | removed =>
    show y ∈ (l.remove r.id).2.records ↔ _
    rw [remove_eq]
    exact mem_erase
  | replaced x hid hstatus =>
    show y ∈ (l.put x).records ↔ _
    rw [mem_put, hid]
    constructor
    · rintro (rfl | hmem)
      · rw [hstatus] at hy
        cases hy
      · exact hmem
    · exact .inr

theorem Withdraws.vacates {op : Op Account bits} (h : Withdraws r op) :
    Vacates r l (l.perform op).2 :=
  fun _ hy => h.mem_iff (hy ▸ rfl)

/-- Confirmed records are none of its business. -/
theorem Withdraws.mem_query_confirmed {op : Op Account bits} (h : Withdraws r op)
    (hr : l.Submits account r k) (y : Record Account bits) :
    y ∈ l.query account .confirmed ↔ y ∈ (l.perform op).2.query account .confirmed := by
  rw [mem_query, mem_query]
  refine and_congr_left ?_
  rintro ⟨-, hstatus⟩
  rw [h.mem_iff (hstatus ▸ rfl)]
  refine ⟨fun hy => ⟨hy, fun hid => ?_⟩, And.left⟩
  rw [eq_of_id_eq hy hr.mem hid, hr.status_eq] at hstatus
  cases hstatus

/-- Whether `k`, between the candidate `c` and the decision `n₀`, is held by `r` alone. -/
def HoldsSlot (l : Ledger Account bits) (account : Account) (r : Record Account bits)
    (c k n₀ : Nonce bits) : Prop :=
  c ≤ k ∧ k < n₀ ∧ ¬ l.HeldBesides account r k

/-- A withdrawal reopens the slot of the record, if it alone held one, and nothing else. -/
theorem nextNonce_of_withdraws {op : Op Account bits} (hok : l.nextNonce account answer = .ok n₀)
    (hr : l.Submits account r k) (hop : Withdraws r op) :
    ∃ count frontier n, answer = .ok count ∧
      confirmedFrontier (l.query account .confirmed) = .ok frontier ∧
      (l.perform op).2.nextNonce account answer = .ok n ∧ n ≤ n₀ ∧
      (l.HoldsSlot account r (max count frontier) k n₀ → n = k) ∧
      (¬ l.HoldsSlot account r (max count frontier) k n₀ → n = n₀) := by
  obtain ⟨count, c, hanswer, hconfirmed, hsubmitted, hc, hfree⟩ := nextNonce_eq_ok_iff.1 hok
  obtain ⟨frontier, hf⟩ := exists_isFrontier_zero hc.top_not_mem
  have hmax : c = max count frontier := hc.unique (hf.max_floor count)
  subst hmax
  have hquery := hop.mem_query_confirmed hr
  have hlost := hop.vacates.losesAtMost hr
  -- The candidate is the same, so that a least free nonce from there on is what is told.
  have htell : ∀ n, IsLeastFree ((l.perform op).2.held account .submitted) (max count frontier) n →
      (l.perform op).2.nextNonce account answer = .ok n := by
    intro n hn
    exact nextNonce_eq_ok_iff.2 ⟨count, max count frontier, hanswer,
      fun x hx => hconfirmed x ((hquery x).2 hx), hop.vacates.numbered hsubmitted,
      hc.congr (mem_nonces_congr hquery), hn⟩
  have hfrontier := confirmedFrontier_of_isFrontier hconfirmed hf
  by_cases hslot : l.HoldsSlot account r (max count frontier) k n₀
  · -- The run is cut at the slot.
    obtain ⟨hck, hkn, hbesides⟩ := hslot
    have hrun := hfree.reopened hlost hck hkn fun h => hbesides (hop.vacates.mem_held_iff.1 h)
    exact ⟨count, frontier, k, hanswer, hfrontier, htell k hrun, Nat.le_of_lt hkn, fun _ => rfl,
      fun hn => absurd ⟨hck, hkn, hbesides⟩ hn⟩
  · -- Either `k` was no part of the run, or another record keeps it there.
    have hkept : max count frontier ≤ k → k < n₀ →
        k ∈ (l.perform op).2.held account .submitted := by
      intro hck hkn
      by_contra hk
      exact hslot ⟨hck, hkn, fun h => hk (hop.vacates.mem_held_iff.2 h)⟩
    have hrun := hfree.of_losesAtMost hlost (Nat.le_refl _) hfree.start_le hkept
    exact ⟨count, frontier, n₀, hanswer, hfrontier, htell n₀ hrun, Nat.le_refl _,
      fun h => absurd h hslot, fun _ => rfl⟩

end Ledger

/-! ### Requests and guards -/

namespace Tracker

open Ledger

variable [DecidableEq Account] {t t' : Tracker Account bits} {account : Account}
  {answer : Except SourceError (Nonce bits)} {outcome : Outcome bits} {r : Record Account bits}
  {k n₀ : Nonce bits}

theorem nextNonce_of_answers (h : t.Answers account answer (.answered (.ok n₀))) :
    t.ledger.nextNonce account answer = .ok n₀ := by
  have hout := outcome_of_answers h
  rw [Outcome.answered.injEq] at hout
  exact hout.symm

/-- **A confirmation leaves decisions stable.**  A request or a guard was told `n₀`, a submitted
    record of the account that held `k` is confirmed, and a request or a guard asks again while the
    node answers the same.  It is told `n₀` again if `k` is less, and `k` is not `n₀`; if `k` is
    larger it is told a larger nonce than `k`, the first one that is not held, or that there is
    none. -/
theorem confirmation_stable (h : t.Answers account answer (.answered (.ok n₀)))
    (hr : t.ledger.Submits account r k) (now : Timestamp)
    (hledger : t'.ledger = t.ledger.put (r.withStatus .confirmed now))
    (h' : t'.Answers account answer outcome) :
    ∃ result, outcome = .answered result ∧ AfterConfirmation t.ledger account k n₀ result := by
  refine ⟨_, outcome_of_answers h', ?_⟩
  rw [hledger]
  exact afterConfirmation_nextNonce (nextNonce_of_answers h) hr now

/-- The nonces 4 and 5 are passed over, behind the confirmed 3. -/
theorem answers_gapped : (new gappedLedger).Answers 7 (.ok 2) (.answered (.ok 6)) := by
  have h : (new gappedLedger).Answers 7 (.ok 2) _ := .request rfl
  have hsix : gappedLedger.nextNonce 7 (.ok 2) = .ok 6 := by decide +kernel
  rw [outcome_of_answers h, show (new gappedLedger).ledger = gappedLedger from rfl, hsix] at h
  exact h

/-- The run is cut in the middle, at a nonce that a further record holds. -/
theorem confirmation_stable_gapped :
    gappedLedger.Submits 7 (Session.assigned "c" 7 4) 4 ∧
      ∃ result,
        ((new (gappedLedger.put ((Session.assigned "c" 7 4).withStatus .confirmed 9))).request
          (some (.ok 2)) 7).1 = .answered result ∧
        AfterConfirmation gappedLedger 7 4 6 result ∧ result = .ok 6 := by
  have hr : gappedLedger.Submits 7 (Session.assigned "c" 7 4) 4 := ⟨by decide, rfl, rfl, rfl⟩
  obtain ⟨result, hout, hafter⟩ := confirmation_stable answers_gapped hr 9 rfl
    (.request (t := new (gappedLedger.put _)) rfl)
  exact ⟨hr, result, hout, hafter, hafter.of_lt (by decide)⟩

/-- **A withdrawal frees one slot.**  A request or a guard was told `n₀`, a submitted record of the
    account that held `k` is removed or moves to a stage that holds no nonce, and a request or a
    guard asks again while the node answers the same.  If `k` lay between the candidate and `n₀` and
    no other submitted record of the account holds it, then it is told `k`, and else `n₀` again. -/
theorem withdrawal_frees_slot {op : Op Account bits}
    (h : t.Answers account answer (.answered (.ok n₀))) (hr : t.ledger.Submits account r k)
    (hop : Withdraws r op) (hledger : t'.ledger = (t.ledger.perform op).2)
    (h' : t'.Answers account answer outcome) :
    ∃ count frontier n, answer = .ok count ∧
      confirmedFrontier (t.ledger.query account .confirmed) = .ok frontier ∧
      outcome = .answered (.ok n) ∧ n ≤ n₀ ∧
      (t.ledger.HoldsSlot account r (max count frontier) k n₀ → n = k) ∧
      (¬ t.ledger.HoldsSlot account r (max count frontier) k n₀ → n = n₀) := by
  obtain ⟨count, frontier, n, hanswer, hfrontier, hn, hle, hslot⟩ :=
    nextNonce_of_withdraws (nextNonce_of_answers h) hr hop
  refine ⟨count, frontier, n, hanswer, hfrontier, ?_, hle, hslot⟩
  rw [outcome_of_answers h', hledger, hn]

/-- The nonce 5 is dropped, which no other record holds. -/
theorem withdrawal_frees_slot_gapped :
    gappedLedger.Submits 7 (Session.assigned "b" 7 5) 5 ∧
      ((new (gappedLedger.put ((Session.assigned "b" 7 5).withStatus .dropped 9))).request
        (some (.ok 2)) 7).1 = .answered (.ok 5) := by
  have hr : gappedLedger.Submits 7 (Session.assigned "b" 7 5) 5 := ⟨by decide, rfl, rfl, rfl⟩
  have hop : Withdraws (Session.assigned "b" 7 5 : Record Nat 64)
      (.put ((Session.assigned "b" 7 5).withStatus .dropped 9)) := .replaced _ rfl rfl
  obtain ⟨count, frontier, n, hanswer, hfrontier, hout, -, hslot, -⟩ :=
    withdrawal_frees_slot answers_gapped hr hop rfl (.request (t := new (gappedLedger.put _)) rfl)
  cases hanswer
  have hfour : confirmedFrontier (gappedLedger.query 7 .confirmed) = .ok 4 := by decide
  have hcandidate : frontier = 4 := Except.ok.inj (hfrontier.symm.trans hfour)
  have hfive : n = 5 := by
    refine hslot ⟨by rw [hcandidate]; decide, by decide, ?_⟩
    rintro ⟨x, hx, hid, -, -, hnonce⟩
    revert x
    decide
  exact ⟨hr, hfive ▸ hout⟩

end Tracker

end NonceAllocation
