import NonceAllocation.Proofs.Ledger.Advance
import NonceAllocation.Proofs.Tracker.Step
import NonceAllocation.Tracker.Session

namespace NonceAllocation

/-!
# Trackers — decisions one after the other

A tracker keeps nothing of the decisions that it has made: whether they go up is up to the ledger
and to the node.  A journal writes them down:

* `Tracker.decision?` — what is decided in an action, for whom and on which answer;
* `Journal`, `Journal.step`, `Journal.run` — decisions and changes of the ledger, in any order;
* `Journal.Advancing`, `Journal.Steady` — what is asked of the changes and of the node;
* `Journal.Sound`, `Journal.Sound.use`, `Journal.Sound.change`, `Journal.Sound.run` — the ledgers
  that decisions have read have kept, each, what the earlier ledgers exclude;
* `Journal.never_back` — decisions for an account never go back then;
* `Journal.back_after_unconfirmed` — they do if a confirmed record becomes a submitted one.
-/

variable {Account : Type} {bits : Nat}

/-- What was decided for an account, and on which answer. -/
structure Decision (Account : Type) (bits : Nat) where
  account : Account
  answer : Except SourceError (Nonce bits)
  result : Except (NonceError bits) (Nonce bits)

namespace Tracker

/-- The account for which an answer is used in an action, if one is. -/
def answered? (t : Tracker Account bits) :
    Action Account bits → Option (Account × Except SourceError (Nonce bits))
  | .poll (some answer) k =>
    match t.stage? k with
    | some (.queuedToAsk account) | some (.asking account) | some (.holdingAsking account) =>
      some (account, answer)
    | _ => none
  | .call (some answer) _ account => some (account, answer)
  | _ => none

variable [DecidableEq Account] {t : Tracker Account bits} {action : Action Account bits}

/-- What is decided in an action. -/
def decision? (t : Tracker Account bits) (action : Action Account bits) :
    Option (Decision Account bits) :=
  match t.answered? action, (t.act action).1 with
  | some (account, answer), .answered result => some ⟨account, answer, result⟩
  | _, _ => none

/-- Every result is one of a decision on the ledger of that moment. -/
theorem decision?_of_answered {result : Except (NonceError bits) (Nonce bits)}
    (h : (t.act action).1 = .answered result) :
    ∃ account answer, t.decision? action = some ⟨account, answer, result⟩ ∧
      result = t.ledger.nextNonce account answer := by
  have hstep := step_act t action
  have hused : ∀ account answer, t.answered? action = some (account, answer) →
      t.decision? action = some ⟨account, answer, result⟩ := by
    intro account answer hanswered
    simp only [decision?, hanswered, h]
  rw [h] at hstep
  generalize (t.act action).2 = t' at hstep
  cases hstep with
  | asksAnswered answer k account hstage =>
    exact ⟨account, answer, hused _ _ (by simp [answered?, hstage]), rfl⟩
  | answered answer k account hstage =>
    exact ⟨account, answer, hused _ _ (by simp [answered?, hstage]), rfl⟩
  | guardAnswered answer k account hstage =>
    exact ⟨account, answer, hused _ _ (by simp [answered?, hstage]), rfl⟩
  | callsAnswered answer k account hstage =>
    exact ⟨account, answer, hused _ _ rfl, rfl⟩

theorem result_of_decision? {d : Decision Account bits} (h : t.decision? action = some d) :
    d.result = t.ledger.nextNonce d.account d.answer := by
  cases hout : (t.act action).1 with
  | pending => simp [decision?, hout] at h
  | locked => simp [decision?, hout] at h
  | answered result =>
    obtain ⟨account, answer, hdecision, hresult⟩ := decision?_of_answered hout
    rw [hdecision, Option.some.injEq] at h
    subst h
    exact hresult

end Tracker

/-- A decision in a run, with the ledger that it has read and all that came before it. -/
structure Entry (Account : Type) (bits : Nat) extends Decision Account bits where
  read : Ledger Account bits
  /-- All ledgers of the run up to the decision, the one that it has read among them. -/
  seen : List (Ledger Account bits)

namespace Entry

/-- Whether the entry tells `n` for the account. -/
def Tells (e : Entry Account bits) (account : Account) (n : Nonce bits) : Prop :=
  e.account = account ∧ e.result = .ok n

/-- The node's count of the account, if the entry is about it. -/
def count? [DecidableEq Account] (e : Entry Account bits) (account : Account) :
    Option (Nonce bits) :=
  if e.account = account then e.answer.toOption else none

end Entry

/-- A tracker with all of its decisions. -/
structure Journal (Account : Type) (bits : Nat) where
  tracker : Tracker Account bits
  /-- The ledgers of the run so far, the present one first. -/
  past : List (Ledger Account bits)
  /-- The decisions, the latest first. -/
  entries : List (Entry Account bits)

namespace Journal

/-- What can happen next. -/
inductive Event (Account : Type) (bits : Nat) where
  /-- Somebody uses the tracker. -/
  | use (action : Tracker.Action Account bits)
  /-- Somebody changes the ledger. -/
  | change (op : Ledger.Op Account bits)

/-- A tracker whose decisions are written down from now on. -/
def start (t : Tracker Account bits) : Journal Account bits where
  tracker := t
  past := [t.ledger]
  entries := []

/-- The present ledger. -/
def ledger (j : Journal Account bits) : Ledger Account bits := j.tracker.ledger

variable [DecidableEq Account]

/-- The entry of an action that decides. -/
def entry? (j : Journal Account bits) (action : Tracker.Action Account bits) :
    Option (Entry Account bits) :=
  (j.tracker.decision? action).map fun d => { d with read := j.ledger, seen := j.past }

def step (j : Journal Account bits) : Event Account bits → Journal Account bits
  | .use action =>
    { j with
      tracker := (j.tracker.act action).2
      entries := (j.entry? action).toList ++ j.entries }
  | .change op =>
    { j with
      tracker := j.tracker.mapLedger fun l => (l.perform op).2
      past := (j.ledger.perform op).2 :: j.past }

/-- Events one after the other. -/
def run (j : Journal Account bits) (events : List (Event Account bits)) : Journal Account bits :=
  events.foldl step j

/-! ### What is asked of a run -/

/-- Whether every change of the ledger is an advance for the account. -/
def Advancing (account : Account) (j : Journal Account bits) : List (Event Account bits) → Prop
  | [] => True
  | .use action :: events => (j.step (.use action)).Advancing account events
  | .change op :: events =>
    j.ledger.Advance account op ∧ (j.step (.change op)).Advancing account events

/-- Whether the node's counts of the account have not gone back, the latest one being first. -/
def Steady (account : Account) (j : Journal Account bits) : Prop :=
  (j.entries.filterMap (·.count? account)).Pairwise (fun later earlier => earlier ≤ later)

instance (account : Account) (j : Journal Account bits) : Decidable (j.Steady account) :=
  inferInstanceAs (Decidable (List.Pairwise _ _))

/-! ### What every step keeps -/

/-- The invariant of all runs whose changes are advances for the account. -/
structure Sound (account : Account) (j : Journal Account bits) : Prop where
  present : j.ledger ∈ j.past
  /-- What was ever excluded still is. -/
  past_keeps : ∀ l ∈ j.past, l.Keeps account j.ledger
  /-- Every decision is one on a ledger of the run. -/
  decided : ∀ e ∈ j.entries, e.read ∈ j.past ∧ e.result = e.read.nextNonce e.account e.answer
  /-- That ledger has kept what all before it exclude. -/
  seen_keeps : ∀ e ∈ j.entries, ∀ l ∈ e.seen, l.Keeps account e.read
  /-- Later decisions have read later ledgers. -/
  chain : j.entries.Pairwise fun later earlier => earlier.read.Keeps account later.read

theorem sound_start (account : Account) (t : Tracker Account bits) : (start t).Sound account where
  present := List.mem_singleton_self t.ledger
  past_keeps l hl := by
    rw [List.mem_singleton.1 hl]
    exact .refl t.ledger
  decided e he := by cases he
  seen_keeps e he := by cases he
  chain := List.Pairwise.nil

namespace Sound

variable {account : Account} {j : Journal Account bits}

/-- A decision is written down with the present ledger, which has kept all. -/
theorem cons (h : j.Sound account) {d : Decision Account bits}
    (hd : d.result = j.ledger.nextNonce d.account d.answer) :
    Sound account
      { j with entries := { d with read := j.ledger, seen := j.past } :: j.entries } where
  present := h.present
  past_keeps := h.past_keeps
  decided e he := by
    rcases List.mem_cons.1 he with rfl | he
    · exact ⟨h.present, hd⟩
    · exact h.decided e he
  seen_keeps e he := by
    rcases List.mem_cons.1 he with rfl | he
    · exact h.past_keeps
    · exact h.seen_keeps e he
  chain := List.pairwise_cons.2
    ⟨fun e he => h.past_keeps e.read (h.decided e he).1, h.chain⟩

/-- Nothing depends on the line of the tracker. -/
theorem of_ledger_eq (h : j.Sound account) {t : Tracker Account bits} (ht : t.ledger = j.ledger) :
    Sound account { j with tracker := t } where
  present := by
    show t.ledger ∈ j.past
    rw [ht]
    exact h.present
  past_keeps l hl := by
    show l.Keeps account t.ledger
    rw [ht]
    exact h.past_keeps l hl
  decided := h.decided
  seen_keeps := h.seen_keeps
  chain := h.chain

theorem use (h : j.Sound account) (action : Tracker.Action Account bits) :
    (j.step (.use action)).Sound account := by
  have hledger : (j.tracker.act action).2.ledger = j.ledger :=
    (Tracker.step_act j.tracker action).ledger_eq
  cases hd : j.tracker.decision? action with
  | none =>
    rw [step, entry?, hd]
    exact h.of_ledger_eq hledger
  | some d =>
    rw [step, entry?, hd]
    exact (h.cons (Tracker.result_of_decision? hd)).of_ledger_eq hledger

/-- The changed ledger has kept what the one before it excludes, and so what all others do. -/
theorem change (h : j.Sound account) {op : Ledger.Op Account bits}
    (hop : j.ledger.Advance account op) : (j.step (.change op)).Sound account where
  present := List.mem_cons_self
  past_keeps l hl := by
    rcases List.mem_cons.1 hl with rfl | hl
    · exact .refl _
    · exact (h.past_keeps l hl).trans hop.keeps
  decided e he := ⟨List.mem_cons_of_mem _ (h.decided e he).1, (h.decided e he).2⟩
  seen_keeps := h.seen_keeps
  chain := h.chain

theorem run {events : List (Event Account bits)} (h : j.Sound account)
    (hadv : j.Advancing account events) : (j.run events).Sound account := by
  induction events generalizing j with
  | nil => exact h
  | cons event events ih =>
    cases event with
    | use action => exact ih (h.use action) hadv
    | change op => exact ih (h.change hadv.1) hadv.2

/-- A told nonce, by what the ledger that was read excludes. -/
theorem isNextAllowed (h : j.Sound account) {e : Entry Account bits} (he : e ∈ j.entries)
    {n : Nonce bits} (hn : e.Tells account n) :
    ∃ count, e.count? account = some count ∧ e.read.IsNextAllowed account count n := by
  obtain ⟨haccount, hresult⟩ := hn
  rw [(h.decided e he).2, haccount] at hresult
  obtain ⟨count, hanswer, hnext⟩ := Ledger.isNextAllowed_of_nextNonce hresult
  refine ⟨count, ?_, hnext⟩
  rw [Entry.count?, if_pos haccount, hanswer]
  rfl

end Sound

/-- **Decisions for an account never go back while the node does not.**  Let every change of the
    ledger in a run be an addition, a submission of what is not confirmed, a confirmation, or a
    change of other records.  If the node's counts have not gone back either, a later decision is no
    less than an earlier one, and larger if a submitted or confirmed record has held the earlier
    nonce by then.  In any case, a decision is larger than all that was confirmed before it. -/
theorem never_back (account : Account) (t : Tracker Account bits)
    (events : List (Event Account bits)) (hadv : (start t).Advancing account events)
    {j : Journal Account bits} (hj : (start t).run events = j) :
    (j.Steady account → j.entries.Pairwise fun later earlier =>
      ∀ n n', earlier.Tells account n → later.Tells account n' →
        n ≤ n' ∧ ((∃ l ∈ later.seen, l.Uses account n) → n < n')) ∧
    ∀ e ∈ j.entries, ∀ n, e.Tells account n →
      ∀ l ∈ e.seen, ∀ k ∈ l.held account .confirmed, k < n := by
  have h : j.Sound account := hj ▸ (sound_start account t).run hadv
  constructor
  · intro hsteady
    have hcounts := List.pairwise_filterMap.1 hsteady
    refine (h.chain.and hcounts).imp_of_mem ?_
    rintro later earlier hlater hearlier ⟨hkeeps, hcounts⟩ n n' hn hn'
    obtain ⟨count, hcount, hnext⟩ := h.isNextAllowed hearlier hn
    obtain ⟨count', hcount', hnext'⟩ := h.isNextAllowed hlater hn'
    have hle : count ≤ count' := hcounts count' hcount' count hcount
    refine ⟨hnext.le hnext' hle hkeeps, ?_⟩
    rintro ⟨l, hl, hused⟩
    have hexcluded := (h.seen_keeps later hlater l hl).excludes (Ledger.excludes_of_uses hused)
    exact hnext.lt_of_excludes hnext' hle hkeeps hexcluded
  · intro e he n hn l hl k hk
    obtain ⟨count, -, hnext⟩ := h.isNextAllowed he hn
    exact hnext.lt_of_confirmed ((h.seen_keeps e he l hl).confirmed k hk)

/-- A record is submitted, and confirmed while a request waits for its answer; a second one gets its
    nonce when it is submitted.  The node's count lags behind by one all the time. -/
def lagging : List (Event Nat 64) :=
  let paid : Record Nat 64 := Session.assigned "paid" 7 0
  let late : Record Nat 64 := Record.new "late" 7 0
  [.use (.request 7), .use (.poll (some (.ok 0)) 0), .change (.put paid),
    .use (.request 7), .use (.poll none 1), .change (.put (paid.withStatus .confirmed 0)),
    .use (.poll (some (.ok 0)) 1), .change (.put late),
    .change (.put ((late.withNonce 1).withStatus .submitted 0)), .change (.remove "other"),
    .use .tryLock, .use (.call (some (.ok 1)) 2 7)]

theorem advancing_lagging : (start (.new .empty)).Advancing 7 lagging :=
  ⟨.added _ rfl,
    .confirmed (Session.assigned "paid" 7 0) _ (by decide) rfl rfl rfl rfl,
    .added _ (by decide),
    .submitted (Record.new "late" 7 0) _ (by decide) (by decide) rfl rfl (fun _ h => by cases h),
    .elsewhere _ (by rintro id x hid hx; cases hid; cases hx), trivial⟩

theorem never_back_lagging :
    (start (.new .empty)).Advancing 7 lagging ∧
      ∃ j, (start (.new .empty)).run lagging = j ∧ j.Steady 7 ∧
        j.entries.map (fun e => e.result) = [.ok 2, .ok 1, .ok 0] ∧
        (j.entries.Pairwise fun later earlier =>
          ∀ n n', earlier.Tells 7 n → later.Tells 7 n' →
            n ≤ n' ∧ ((∃ l ∈ later.seen, l.Uses 7 n) → n < n')) ∧
        ∀ e ∈ j.entries, ∀ n, e.Tells 7 n → ∀ l ∈ e.seen, ∀ k ∈ l.held 7 .confirmed, k < n := by
  have hsteady : ((start (.new .empty)).run lagging).Steady 7 := by decide +kernel
  have hresults : ((start (.new .empty)).run lagging).entries.map (fun e => e.result) =
      [.ok 2, .ok 1, .ok 0] := by
    decide +kernel
  obtain ⟨hrising, hconfirmed⟩ := never_back 7 (.new .empty) lagging advancing_lagging rfl
  exact ⟨advancing_lagging, _, rfl, hsteady, hresults, hrising hsteady, hconfirmed⟩

/-- A confirmed record that goes back among the submitted ones, with its account and its nonce,
    takes the decisions with it: 6 before and 0 afterwards, for a node that answers 0 both times. -/
theorem back_after_unconfirmed :
    let x : Record Nat 64 := (Session.assigned "a" 7 5).withStatus .confirmed 0
    let r := x.withStatus .submitted 0
    let l : Ledger Nat 64 := .ofList [x]
    let j := (start (.new l)).run
      [.use (.request 7), .use (.poll (some (.ok 0)) 0), .change (.put r),
        .use (.request 7), .use (.poll (some (.ok 0)) 1)]
    l.get? r.id = some x ∧ r.status = .submitted ∧ r.account = x.account ∧ r.nonce = x.nonce ∧
      j.Steady 7 ∧ 5 ∈ l.held 7 .confirmed ∧
      j.entries.map (fun e => (e.account, e.result)) = [(7, .ok 0), (7, .ok 6)] :=
  ⟨by decide, rfl, rfl, rfl, by decide +kernel, by decide, by decide +kernel⟩

end Journal

end NonceAllocation
