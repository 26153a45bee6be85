import Mathlib.Tactic.Common
import NonceAllocation.Proofs.Basic
import NonceAllocation.Tracker

namespace NonceAllocation

/-!
# Trackers — what one step does

All that the holders of tickets can do with a tracker, as one type of actions, and the outcome of
each told once, so that invariants of runs are proved by cases over `Step`:

* `Tracker.Action`, `Tracker.act` — requests, waits for the lock, polls, guarded calls, and giving
  any of these up;
* `Tracker.Step`, `Tracker.step_act` — what an action can come to, with the stage it starts from;
* `Tracker.Orderly`, `Tracker.Orderly.step` — whoever has been given the lock stands first in line,
  so no two have been given it;
* `Tracker.guardDecision?` — what a guard decides, to which it alone may then commit.
-/

variable {Account : Type} {bits : Nat}

/-- Whether a ticket in this stage has been given the lock. -/
def Stage.hasLock : Stage Account → Bool
  | .queuedToAsk _ | .queuedToHold => false
  | .asking _ | .holding | .holdingAsking _ => true

/-- Whether a ticket in this stage is a guard. -/
def Stage.isGuard : Stage Account → Bool
  | .holding | .holdingAsking _ => true
  | _ => false

theorem Stage.hasLock_of_isGuard {s : Stage Account} (h : s.isGuard = true) : s.hasLock = true := by
  cases s <;> simp_all [isGuard, hasLock]

namespace Tracker

/-- What somebody does with a tracker.  A source is the one that is met at that moment. -/
inductive Action (Account : Type) (bits : Nat) where
  /-- Enters the line to ask once. -/
  | request (account : Account)
  /-- Enters the line for a guard. -/
  | lock
  | tryLock
  | poll (source : Source bits) (k : Ticket)
  /-- A guard asks. -/
  | call (source : Source bits) (k : Ticket) (account : Account)
  | cancelCall (k : Ticket)
  /-- A request is abandoned, or a guard released. -/
  | leave (k : Ticket)

/-- The outcome of an action, and the tracker after it. -/
def act [DecidableEq Account] (t : Tracker Account bits) :
    Action Account bits → Outcome bits × Tracker Account bits
  | .request account => (.pending, (t.join (.queuedToAsk account)).2)
  | .lock => (.pending, (t.join .queuedToHold).2)
  | .tryLock =>
    match t.tryLock? with
    | some (_, t) => (.locked, t)
    | none => (.pending, t)
  | .poll source k => t.poll source k
  | .call source k account => t.call source k account
  | .cancelCall k => (.pending, t.cancelCall k)
  | .leave k => (.pending, t.leave k)

/-! ### Tickets after an operation -/

section

variable (t : Tracker Account bits) (s : Stage Account) (j k : Ticket) (account : Account)

theorem lookup_filter_ne (stages : List (Ticket × Stage Account)) :
    (stages.filter fun p => p.1 != k).lookup j = if j = k then none else stages.lookup j := by
  induction stages with
  | nil => simp
  | cons p stages ih =>
    obtain ⟨i, s⟩ := p
    by_cases hi : i = k
    · rw [List.filter_cons_of_neg (by simp [hi]), ih, lookup_cons_eq, hi]
      by_cases hj : j = k <;> simp [hj]
    · rw [List.filter_cons_of_pos (by simp [hi]), lookup_cons_eq, lookup_cons_eq, ih]
      by_cases hj : j = i
      · have hjk : j ≠ k := fun h => hi (hj.symm.trans h)
        rw [if_pos hj, if_neg hjk, if_pos hj]
      · rw [if_neg hj, if_neg hj]

@[simp] theorem stage?_setStage :
    (t.setStage k s).stage? j = if j = k then some s else t.stage? j := by
  rw [stage?, setStage, lookup_cons_eq, lookup_filter_ne]
  by_cases hj : j = k <;> simp [hj, stage?]

@[simp] theorem stage?_ask : (t.ask k account s).stage? j = if j = k then some s else t.stage? j :=
  stage?_setStage t s j k

@[simp] theorem stage?_leave : (t.leave k).stage? j = if j = k then none else t.stage? j :=
  lookup_filter_ne j k t.stages

@[simp] theorem stage?_join :
    (t.join s).2.stage? j = if j = t.fresh then some s else t.stage? j :=
  lookup_cons_eq t.fresh j s t.stages

@[simp] theorem holds_setStage : (t.setStage k s).holds j = t.holds j := rfl

@[simp] theorem holds_ask : (t.ask k account s).holds j = t.holds j := rfl

variable {t j k}

theorem holds_iff : t.holds k = true ↔ ∃ rest, t.line = k :: rest := by
  rw [holds, beq_iff_eq, List.head?_eq_some_iff]

theorem holds_unique (hj : t.holds j = true) (hk : t.holds k = true) : j = k := by
  obtain ⟨rest, hline⟩ := holds_iff.1 hj
  obtain ⟨rest', hline'⟩ := holds_iff.1 hk
  rw [hline] at hline'
  exact (List.cons.inj hline').1

/-- The first in line keeps its place when another leaves. -/
theorem holds_leave (hne : j ≠ k) (h : t.holds j = true) : (t.leave k).holds j = true := by
  obtain ⟨rest, hline⟩ := holds_iff.1 h
  refine holds_iff.2 ⟨rest.filter fun i => i != k, ?_⟩
  show t.line.filter _ = _
  rw [hline, List.filter_cons_of_pos (by simp [hne])]

/-- The first in line keeps its place when another joins. -/
theorem holds_join (h : t.holds j = true) : (t.join s).2.holds j = true := by
  obtain ⟨rest, hline⟩ := holds_iff.1 h
  refine holds_iff.2 ⟨rest ++ [t.fresh], ?_⟩
  show t.line ++ [t.fresh] = _
  rw [hline, List.cons_append]

/-- Whoever joins an empty line holds the lock. -/
theorem holds_fresh_of_isFree (hfree : t.isFree = true) : (t.join s).2.holds t.fresh = true := by
  refine holds_iff.2 ⟨[], ?_⟩
  have hline : t.line = [] := List.isEmpty_iff.1 hfree
  show t.line ++ [t.fresh] = [t.fresh]
  rw [hline, List.nil_append]

end

/-! ### What an action can come to -/

/-- The outcomes of an action, each with the stage that it starts from. -/
inductive Step [DecidableEq Account] (t : Tracker Account bits) :
    Action Account bits → Outcome bits → Tracker Account bits → Prop where
  /-- Nothing can be done yet, or at all. -/
  | idle (action : Action Account bits) : Step t action .pending t
  | request (account : Account) :
      Step t (.request account) .pending (t.join (.queuedToAsk account)).2
  | lock : Step t .lock .pending (t.join .queuedToHold).2
  | tryLock (hfree : t.isFree = true) : Step t .tryLock .locked (t.join .holding).2
  /-- A guard is born. -/
  | granted (source : Source bits) (k : Ticket) (hstage : t.stage? k = some .queuedToHold)
      (hholds : t.holds k = true) : Step t (.poll source k) .locked (t.setStage k .holding)
  | holding (source : Source bits) (k : Ticket) (hstage : t.stage? k = some .holding) :
      Step t (.poll source k) .locked t
  /-- A request asks, and has to wait. -/
  | asks (k : Ticket) (account : Account) (hstage : t.stage? k = some (.queuedToAsk account))
      (hholds : t.holds k = true) :
      Step t (.poll none k) .pending (t.ask k account (.asking account))
  /-- A request asks and is answered at once. -/
  | asksAnswered (answer : Except SourceError (Nonce bits)) (k : Ticket) (account : Account)
      (hstage : t.stage? k = some (.queuedToAsk account)) (hholds : t.holds k = true) :
      Step t (.poll (some answer) k) (.answered (t.ledger.nextNonce account answer))
        ((t.ask k account (.asking account)).leave k)
  /-- A request that has waited is answered. -/
  | answered (answer : Except SourceError (Nonce bits)) (k : Ticket) (account : Account)
      (hstage : t.stage? k = some (.asking account)) :
      Step t (.poll (some answer) k) (.answered (t.ledger.nextNonce account answer)) (t.leave k)
  /-- A guard that has waited is answered. -/
  | guardAnswered (answer : Except SourceError (Nonce bits)) (k : Ticket) (account : Account)
      (hstage : t.stage? k = some (.holdingAsking account)) :
      Step t (.poll (some answer) k) (.answered (t.ledger.nextNonce account answer))
        (t.setStage k .holding)
  /-- A guard asks, and has to wait. -/
  | calls (k : Ticket) (account : Account) (hstage : t.stage? k = some .holding) :
      Step t (.call none k account) .pending (t.ask k account (.holdingAsking account))
  /-- A guard asks and is answered at once. -/
  | callsAnswered (answer : Except SourceError (Nonce bits)) (k : Ticket) (account : Account)
      (hstage : t.stage? k = some .holding) :
      Step t (.call (some answer) k account) (.answered (t.ledger.nextNonce account answer))
        ((t.ask k account (.holdingAsking account)).setStage k .holding)
  | cancelCall (k : Ticket) (account : Account)
      (hstage : t.stage? k = some (.holdingAsking account)) :
      Step t (.cancelCall k) .pending (t.setStage k .holding)
  | leave (k : Ticket) : Step t (.leave k) .pending (t.leave k)

variable [DecidableEq Account] {t t' : Tracker Account bits} {action : Action Account bits}
  {outcome : Outcome bits}

theorem step_poll (t : Tracker Account bits) (source : Source bits) (k : Ticket) :
    Step t (.poll source k) (t.poll source k).1 (t.poll source k).2 := by
  rw [poll]
  cases hstage : t.stage? k with
  | none => exact .idle _
  | some s =>
    cases s with
    | queuedToAsk account =>
      by_cases hholds : t.holds k = true
      · simp only [if_pos hholds]
        cases source with
        | none => exact .asks k account hstage hholds
        | some answer => exact .asksAnswered answer k account hstage hholds
      · simp only [if_neg hholds]
        exact .idle _
    | queuedToHold =>
      by_cases hholds : t.holds k = true
      · simp only [if_pos hholds]
        exact .granted source k hstage hholds
      · simp only [if_neg hholds]
        exact .idle _
    | asking account =>
      cases source with
      | none => exact .idle _
      | some answer => exact .answered answer k account hstage
    | holding => exact .holding source k hstage
    | holdingAsking account =>
      cases source with
      | none => exact .idle _
      | some answer => exact .guardAnswered answer k account hstage

/-- A guard's question is answered as soon as the source answers. -/
theorem call_of_holding {k : Ticket} (source : Source bits) (account : Account)
    (hstage : t.stage? k = some .holding) :
    t.call source k account =
      (t.ask k account (.holdingAsking account)).await source account
        ((t.ask k account (.holdingAsking account)).setStage k .holding) := by
  -- The call puts the guard into the stage that its own poll then finds.
  have hasking : (t.ask k account (.holdingAsking account)).stage? k
      = some (.holdingAsking account) := by simp
  simp only [call, hstage, poll, hasking]

theorem step_call (t : Tracker Account bits) (source : Source bits) (k : Ticket)
    (account : Account) :
    Step t (.call source k account) (t.call source k account).1 (t.call source k account).2 := by
  by_cases hstage : t.stage? k = some .holding
  · rw [call_of_holding source account hstage]
    cases source with
    | none => exact .calls k account hstage
    | some answer => exact .callsAnswered answer k account hstage
  · have hidle : t.call source k account = (.pending, t) := by
      rw [call]
      split
      · contradiction
      · rfl
    rw [hidle]
    exact .idle _

/-- Every action comes to one of its outcomes. -/
theorem step_act (t : Tracker Account bits) (action : Action Account bits) :
    Step t action (t.act action).1 (t.act action).2 := by
  cases action with
  | request account => exact .request account
  | lock => exact .lock
  | tryLock =>
    simp only [act, tryLock?]
    by_cases hfree : t.isFree = true
    · simp only [if_pos hfree]
      exact .tryLock hfree
    · simp only [if_neg hfree]
      exact .idle _
  | poll source k => exact step_poll t source k
  | call source k account => exact step_call t source k account
  | cancelCall k =>
    simp only [act, cancelCall]
    split
    · rename_i account hstage
      exact .cancelCall k account hstage
    · exact .idle _
  | leave k => exact .leave k

/-- The ledger is not the line's business. -/
theorem Step.ledger_eq (h : Step t action outcome t') : t'.ledger = t.ledger := by
  cases h <;> rfl

/-! ### One holder at a time -/

/-- Tickets in line have been given out, and whoever has been given the lock stands first. -/
structure Orderly (t : Tracker Account bits) : Prop where
  lt_fresh : ∀ k ∈ t.line, k < t.fresh
  holder_first : ∀ k s, t.stage? k = some s → s.hasLock = true → t.holds k = true

namespace Orderly

omit [DecidableEq Account]

theorem new (ledger : Ledger Account bits) : (Tracker.new ledger).Orderly where
  lt_fresh := by simp [Tracker.new]
  holder_first k s hs := by simp [Tracker.new, stage?] at hs

/-- A ticket goes on to another stage only as the first in line. -/
theorem setStage (h : t.Orderly) {k : Ticket} {s : Stage Account} (hk : t.holds k = true) :
    (t.setStage k s).Orderly where
  lt_fresh := h.lt_fresh
  holder_first := by
    intro j r hj hr
    rw [stage?_setStage] at hj
    by_cases hjk : j = k
    · rw [hjk]
      exact hk
    · rw [if_neg hjk] at hj
      exact h.holder_first j r hj hr

theorem ask (h : t.Orderly) {k : Ticket} {account : Account} {s : Stage Account}
    (hk : t.holds k = true) : (t.ask k account s).Orderly :=
  ⟨h.lt_fresh, (h.setStage (s := s) hk).holder_first⟩

theorem leave (h : t.Orderly) (k : Ticket) : (t.leave k).Orderly where
  lt_fresh j hj := h.lt_fresh j (List.mem_filter.1 hj).1
  holder_first := by
    intro j r hj hr
    rw [stage?_leave] at hj
    by_cases hjk : j = k
    · simp [hjk] at hj
    · rw [if_neg hjk] at hj
      exact holds_leave hjk (h.holder_first j r hj hr)

/-- Who joins has the lock at once only if the line is empty. -/
theorem join (h : t.Orderly) {s : Stage Account} (hs : s.hasLock = true → t.isFree = true) :
    (t.join s).2.Orderly where
  lt_fresh j hj := by
    show j < t.fresh + 1
    rcases List.mem_append.1 hj with hj | hj
    · exact Nat.lt_succ_of_lt (h.lt_fresh j hj)
    · rw [List.mem_singleton.1 hj]
      exact Nat.lt_succ_self t.fresh
  holder_first := by
    intro j r hj hr
    rw [stage?_join] at hj
    by_cases hfresh : j = t.fresh
    · rw [if_pos hfresh, Option.some.injEq] at hj
      subst hj
      rw [hfresh]
      exact holds_fresh_of_isFree s (hs hr)
    · rw [if_neg hfresh] at hj
      exact holds_join s (h.holder_first j r hj hr)

/-- Two tickets that have been given the lock are the same. -/
theorem unique (h : t.Orderly) {j k : Ticket} {r s : Stage Account} (hj : t.stage? j = some r)
    (hr : r.hasLock = true) (hk : t.stage? k = some s) (hs : s.hasLock = true) : j = k :=
  holds_unique (h.holder_first j r hj hr) (h.holder_first k s hk hs)

/-- The ticket given out next is nobody's who has the lock. -/
theorem ne_fresh (h : t.Orderly) {k : Ticket} {s : Stage Account} (hk : t.stage? k = some s)
    (hs : s.hasLock = true) : k ≠ t.fresh := by
  obtain ⟨rest, hline⟩ := holds_iff.1 (h.holder_first k s hk hs)
  exact Nat.ne_of_lt (h.lt_fresh k (by simp [hline]))

end Orderly

/-- **Order is kept by every action.** -/
theorem Orderly.step (h : t.Orderly) (hstep : Step t action outcome t') : t'.Orderly := by
  cases hstep with
  | idle => exact h
  | request account => exact h.join (by simp [Stage.hasLock])
  | lock => exact h.join (by simp [Stage.hasLock])
  | tryLock hfree => exact h.join fun _ => hfree
  | granted source k hstage hholds => exact h.setStage hholds
  | holding => exact h
  | asks k account hstage hholds => exact h.ask hholds
  | asksAnswered answer k account hstage hholds => exact (h.ask hholds).leave k
  | answered answer k => exact h.leave k
  | guardAnswered answer k account hstage => exact h.setStage (h.holder_first k _ hstage rfl)
  | calls k account hstage => exact h.ask (h.holder_first k _ hstage rfl)
  | callsAnswered answer k account hstage =>
    -- Through the stage of waiting and back, first in line all the time.
    have hholds := h.holder_first k _ hstage rfl
    exact (h.ask hholds).setStage hholds
  | cancelCall k account hstage => exact h.setStage (h.holder_first k _ hstage rfl)
  | leave k => exact h.leave k

/-! ### Guards and what they decide -/

/-- Whether the action gives the ticket up. -/
def Action.givesUp : Action Account bits → Ticket → Bool
  | .leave k, j => j == k
  | _, _ => false

omit [DecidableEq Account] in
theorem ne_of_isGuard {j k : Ticket} {r s : Stage Account} (hj : t.stage? j = some r)
    (hr : r.isGuard = true) (hk : t.stage? k = some s) (hs : s.isGuard = false) : j ≠ k := by
  rintro rfl
  rw [hj, Option.some.injEq] at hk
  rw [hk, hs] at hr
  cases hr

/-- A guard stays one until it is given up. -/
theorem Step.isGuard (h : Step t action outcome t') (ht : t.Orderly) {j : Ticket}
    {s : Stage Account} (hj : t.stage? j = some s) (hs : s.isGuard = true)
    (hup : action.givesUp j = false) : ∃ r, t'.stage? j = some r ∧ r.isGuard = true := by
  have hfresh : j ≠ t.fresh := ht.ne_fresh hj (Stage.hasLock_of_isGuard hs)
  cases h with
  | idle => exact ⟨s, hj, hs⟩
  | request account => exact ⟨s, by simp [hfresh, hj], hs⟩
  | lock => exact ⟨s, by simp [hfresh, hj], hs⟩
  | tryLock hfree => exact ⟨s, by simp [hfresh, hj], hs⟩
  | granted source k hstage hholds =>
    by_cases hjk : j = k
    · exact ⟨.holding, by simp [hjk], rfl⟩
    · exact ⟨s, by simp [hjk, hj], hs⟩
  | holding => exact ⟨s, hj, hs⟩
  | asks k account hstage hholds =>
    have hjk : j ≠ k := ne_of_isGuard hj hs hstage rfl
    exact ⟨s, by simp [hjk, hj], hs⟩
  | asksAnswered answer k account hstage hholds =>
    have hjk : j ≠ k := ne_of_isGuard hj hs hstage rfl
    exact ⟨s, by simp [hjk, hj], hs⟩
  | answered answer k account hstage =>
    have hjk : j ≠ k := ne_of_isGuard hj hs hstage rfl
    exact ⟨s, by simp [hjk, hj], hs⟩
  | guardAnswered answer k account hstage =>
    by_cases hjk : j = k
    · exact ⟨.holding, by simp [hjk], rfl⟩
    · exact ⟨s, by simp [hjk, hj], hs⟩
  | calls k account hstage =>
    by_cases hjk : j = k
    · exact ⟨.holdingAsking account, by simp [hjk], rfl⟩
    · exact ⟨s, by simp [hjk, hj], hs⟩
  | callsAnswered answer k account hstage =>
    by_cases hjk : j = k
    · exact ⟨.holding, by simp [hjk], rfl⟩
    · exact ⟨s, by simp [hjk, hj], hs⟩
  | cancelCall k account hstage =>
    by_cases hjk : j = k
    · exact ⟨.holding, by simp [hjk], rfl⟩
    · exact ⟨s, by simp [hjk, hj], hs⟩
  | leave k =>
    have hjk : j ≠ k := by simpa [Action.givesUp] using hup
    exact ⟨s, by simp [hjk, hj], hs⟩

/-- The guard that an action lets ask, and the account for which it asks. -/
def asker? (t : Tracker Account bits) : Action Account bits → Option (Ticket × Account)
  | .call _ k account => some (k, account)
  | .poll _ k =>
    match t.stage? k with
    | some (.holdingAsking account) => some (k, account)
    | _ => none
  | _ => none

/-- What a guard decides in an action: the guard, the account and the nonce. -/
def guardDecision? (t : Tracker Account bits) (action : Action Account bits) :
    Option (Ticket × Account × Nonce bits) :=
  match t.asker? action, (t.act action).1 with
  | some (k, account), .answered (.ok n) => some (k, account, n)
  | _, _ => none

/-- A guard decides on the ledger of that moment, and is a guard afterwards. -/
theorem guardDecision?_eq_some {k : Ticket} {account : Account} {n : Nonce bits}
    (h : t.guardDecision? action = some (k, account, n)) :
    (∃ answer, t.ledger.nextNonce account answer = .ok n) ∧
      (t.act action).2.stage? k = some .holding := by
  have hdecides : t.asker? action = some (k, account) ∧ (t.act action).1 = .answered (.ok n) := by
    rw [guardDecision?] at h
    split at h
    · rename_i hasker hout
      simp only [Option.some.injEq, Prod.mk.injEq] at h
      obtain ⟨rfl, rfl, rfl⟩ := h
      exact ⟨hasker, hout⟩
    · cases h
  obtain ⟨hasker, hout⟩ := hdecides
  have hstep := step_act t action
  rw [hout] at hstep
  -- Four outcomes tell a nonce; two of them are of requests, which are no guards.
  generalize Except.ok n = result at hstep ⊢
  generalize (t.act action).2 = t' at hstep ⊢
  cases hstep with
  | asksAnswered answer j account' hstage => simp [asker?, hstage] at hasker
  | answered answer j account' hstage => simp [asker?, hstage] at hasker
  | guardAnswered answer j account' hstage =>
    simp only [asker?, hstage, Option.some.injEq, Prod.mk.injEq] at hasker
    obtain ⟨rfl, rfl⟩ := hasker
    exact ⟨⟨answer, rfl⟩, by simp⟩
  | callsAnswered answer j account' hstage =>
    simp only [asker?, Option.some.injEq, Prod.mk.injEq] at hasker
    obtain ⟨rfl, rfl⟩ := hasker
    exact ⟨⟨answer, rfl⟩, by simp⟩

end Tracker

end NonceAllocation
