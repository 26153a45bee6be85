import NonceAllocation.Proofs.Tracker.Step

namespace NonceAllocation

/-!
# Trackers — who stands in line, and who has called the source

What a decision has asked of the source is told by the stage that it is in, and by nothing else:

* `Tracker.callsOf`, `Tracker.openCalls` — all source calls of a ticket, and those of the decision
  that it is at;
* `Tracker.over?` — whose decision comes to its end in an action;
* `Tracker.Tidy`, `Tracker.Tidy.step` — whoever has a stage stands in line, and whoever waits there
  has called nobody;
* `Tracker.Balance`, `Tracker.Step.balance` — a step makes the source calls that the stages after it
  account for, and a decision that ends has made one.
-/

variable {Account : Type} {bits : Nat}

/-- Whether a decision is to come, or is under way, in this stage. -/
def Stage.decides : Stage Account → Bool
  | .queuedToAsk _ | .asking _ | .holdingAsking _ => true
  | .queuedToHold | .holding => false

/-- The source calls of a decision in this stage. -/
def Stage.calls : Stage Account → Nat
  | .asking _ | .holdingAsking _ => 1
  | .queuedToAsk _ | .queuedToHold | .holding => 0

theorem Stage.calls_le_one (s : Stage Account) : s.calls ≤ 1 := by
  cases s <;> simp [calls]

/-- Only who has the lock has called the source. -/
theorem Stage.hasLock_of_calls {s : Stage Account} (h : 0 < s.calls) : s.hasLock = true := by
  cases s <;> simp_all [calls, hasLock]

namespace Tracker

/-- All source calls of a ticket so far. -/
def callsOf (t : Tracker Account bits) (k : Ticket) : Nat := t.asked.countP fun p => p.1 == k

/-- The source calls of the decision that the ticket is at. -/
def openCalls (t : Tracker Account bits) (k : Ticket) : Nat := (t.stage? k).elim 0 Stage.calls

/-- Whether the ticket is at a decision. -/
def decides (t : Tracker Account bits) (k : Ticket) : Bool := (t.stage? k).any Stage.decides

/-- The ticket that an action is about. -/
def Action.ticket? : Action Account bits → Option Ticket
  | .poll _ k | .call _ k _ | .cancelCall k | .leave k => some k
  | .request _ | .lock | .tryLock => none

/-- The ticket whose decision ends between two moments: with its result, or with none if it has been
    abandoned. -/
def over? (t : Tracker Account bits) (action : Action Account bits) (outcome : Outcome bits)
    (t' : Tracker Account bits) :
    Option (Ticket × Option (Except (NonceError bits) (Nonce bits))) :=
  match action.ticket? with
  | none => none
  | some k =>
    match outcome with
    | .answered result => some (k, some result)
    | _ => if t.decides k && !t'.decides k then some (k, none) else none

/-- The source calls of a ticket between two moments. -/
def newCalls (t t' : Tracker Account bits) (k : Ticket) : Nat := t'.callsOf k - t.callsOf k

variable {t t' : Tracker Account bits} {j k : Ticket} {s : Stage Account} {account : Account}

@[simp] theorem callsOf_setStage : (t.setStage k s).callsOf j = t.callsOf j := rfl

@[simp] theorem callsOf_leave : (t.leave k).callsOf j = t.callsOf j := rfl

@[simp] theorem callsOf_join : (t.join s).2.callsOf j = t.callsOf j := rfl

@[simp] theorem callsOf_ask :
    (t.ask k account s).callsOf j = t.callsOf j + if j = k then 1 else 0 := by
  show (t.asked ++ [(k, account)]).countP _ = _
  rw [List.countP_append]
  by_cases hj : j = k <;> simp [callsOf, hj, Ne.symm]

@[simp] theorem openCalls_setStage :
    (t.setStage k s).openCalls j = if j = k then s.calls else t.openCalls j := by
  rw [openCalls, stage?_setStage]
  split <;> rfl

@[simp] theorem openCalls_ask :
    (t.ask k account s).openCalls j = if j = k then s.calls else t.openCalls j :=
  openCalls_setStage

@[simp] theorem openCalls_leave :
    (t.leave k).openCalls j = if j = k then 0 else t.openCalls j := by
  rw [openCalls, stage?_leave]
  split <;> rfl

@[simp] theorem openCalls_join :
    (t.join s).2.openCalls j = if j = t.fresh then s.calls else t.openCalls j := by
  rw [openCalls, stage?_join]
  split <;> rfl

theorem openCalls_of_stage? (h : t.stage? k = some s) : t.openCalls k = s.calls := by
  rw [openCalls, h]
  rfl

theorem openCalls_le_one : t.openCalls k ≤ 1 := by
  rw [openCalls]
  cases t.stage? k with
  | none => exact Nat.zero_le 1
  | some s => exact s.calls_le_one

/-- Who is at no decision has made no source call for one. -/
theorem openCalls_of_not_decides (h : t.decides k = false) : t.openCalls k = 0 := by
  rw [decides] at h
  rw [openCalls]
  cases hs : t.stage? k with
  | none => rfl
  | some s =>
    rw [hs] at h
    cases s <;> simp_all [Stage.decides, Stage.calls]

/-! ### Who stands in line -/

/-- The line is made of those who have a stage, and those who have not been given the lock have not
    called the source. -/
structure Tidy (t : Tracker Account bits) : Prop extends Orderly t where
  mem_line_iff : ∀ k, k ∈ t.line ↔ (t.stage? k).isSome
  fresh_silent : ∀ k, t.fresh ≤ k → t.callsOf k = 0
  waiting_silent : ∀ k s, t.stage? k = some s → s.hasLock = false → t.callsOf k = 0

namespace Tidy

theorem new (ledger : Ledger Account bits) : (Tracker.new ledger).Tidy where
  toOrderly := .new ledger
  mem_line_iff k := by simp [Tracker.new, stage?]
  fresh_silent k _ := rfl
  waiting_silent k s _ _ := rfl

/-- The ticket given out next is nobody's. -/
theorem stage?_fresh (h : t.Tidy) : t.stage? t.fresh = none := by
  cases hs : t.stage? t.fresh with
  | none => rfl
  | some s =>
    have hmem : t.fresh ∈ t.line := (h.mem_line_iff t.fresh).2 (by rw [hs]; rfl)
    exact absurd (h.lt_fresh t.fresh hmem) (Nat.lt_irrefl t.fresh)

theorem mem_line_of_holds (hk : t.holds k = true) : k ∈ t.line := by
  obtain ⟨rest, hline⟩ := holds_iff.1 hk
  simp [hline]

/-- Who has the lock goes on to a stage with the lock. -/
theorem setStage (h : t.Tidy) (hk : t.holds k = true) (hs : s.hasLock = true) :
    (t.setStage k s).Tidy where
  toOrderly := h.toOrderly.setStage hk
  mem_line_iff j := by
    show j ∈ t.line ↔ _
    rw [stage?_setStage]
    by_cases hj : j = k
    · simp [hj, mem_line_of_holds hk]
    · rw [if_neg hj, h.mem_line_iff]
  fresh_silent := h.fresh_silent
  waiting_silent j r hj hr := by
    rw [stage?_setStage] at hj
    by_cases hjk : j = k
    · rw [if_pos hjk, Option.some.injEq] at hj
      rw [hj, hr] at hs
      cases hs
    · rw [if_neg hjk] at hj
      exact h.waiting_silent j r hj hr

theorem ask (h : t.Tidy) (hk : t.holds k = true) (hs : s.hasLock = true) :
    (t.ask k account s).Tidy where
  toOrderly := h.toOrderly.ask hk
  mem_line_iff := (h.setStage hk hs).mem_line_iff
  fresh_silent j hj := by
    have hjk : j ≠ k := Nat.ne_of_gt
      (Nat.lt_of_lt_of_le (h.lt_fresh k (mem_line_of_holds hk)) hj)
    rw [callsOf_ask, if_neg hjk]
    exact h.fresh_silent j hj
  waiting_silent j r hj hr := by
    -- Who waits is another, and the call is not one of its own.
    have hjk : j ≠ k := by
      rintro rfl
      rw [stage?_ask, if_pos rfl, Option.some.injEq] at hj
      rw [hj, hr] at hs
      cases hs
    rw [callsOf_ask, if_neg hjk]
    exact (h.setStage hk hs).waiting_silent j r hj hr

theorem leave (h : t.Tidy) (k : Ticket) : (t.leave k).Tidy where
  toOrderly := h.toOrderly.leave k
  mem_line_iff j := by
    show j ∈ t.line.filter _ ↔ _
    rw [stage?_leave, List.mem_filter, h.mem_line_iff]
    by_cases hj : j = k <;> simp [hj]
  fresh_silent := h.fresh_silent
  waiting_silent j r hj hr := by
    rw [stage?_leave] at hj
    by_cases hjk : j = k
    · rw [if_pos hjk] at hj
      cases hj
    · rw [if_neg hjk] at hj
      exact h.waiting_silent j r hj hr

/-- Who enters may do so at any place of the line that leaves those with the lock first. -/
theorem enter (h : t.Tidy) {line : List Ticket} (hline : line.Perm (t.line ++ [t.fresh]))
    (hfirst : ∀ j r, (t.join s).2.stage? j = some r → r.hasLock = true → line.head? = some j) :
    Tidy { (t.join s).2 with line } where
  lt_fresh j hj := by
    show j < t.fresh + 1
    rcases List.mem_append.1 (hline.mem_iff.1 hj) with hj | hj
    · exact Nat.lt_succ_of_lt (h.lt_fresh j hj)
    · rw [List.mem_singleton.1 hj]
      exact Nat.lt_succ_self t.fresh
  holder_first j r hj hr := by
    show (line.head? == some j) = true
    rw [hfirst j r hj hr, beq_self_eq_true]
  mem_line_iff j := by
    show j ∈ line ↔ ((t.join s).2.stage? j).isSome
    rw [hline.mem_iff, stage?_join, List.mem_append, List.mem_singleton, h.mem_line_iff]
    by_cases hj : j = t.fresh <;> simp [hj]
  fresh_silent j hj := h.fresh_silent j (Nat.le_of_succ_le hj)
  waiting_silent j r hj hr := by
    replace hj : (t.join s).2.stage? j = some r := hj
    rw [stage?_join] at hj
    by_cases hfresh : j = t.fresh
    · exact h.fresh_silent j (Nat.le_of_eq hfresh.symm)
    · rw [if_neg hfresh] at hj
      exact h.waiting_silent j r hj hr

theorem join (h : t.Tidy) (hs : s.hasLock = true → t.isFree = true) : (t.join s).2.Tidy :=
  h.enter (.refl _) fun j r hj hr => beq_iff_eq.1 ((h.toOrderly.join hs).holder_first j r hj hr)

end Tidy

variable [DecidableEq Account] {action : Action Account bits} {outcome : Outcome bits}

/-- **A tidy line stays so.** -/
theorem Tidy.step (h : t.Tidy) (hstep : Step t action outcome t') : t'.Tidy := by
  cases hstep with
  | idle => exact h
  | request account => exact h.join (by simp [Stage.hasLock])
  | lock => exact h.join (by simp [Stage.hasLock])
  | tryLock hfree => exact h.join fun _ => hfree
  | granted source k hstage hholds => exact h.setStage hholds rfl
  | holding => exact h
  | asks k account hstage hholds => exact h.ask hholds rfl
  | asksAnswered answer k account hstage hholds => exact (h.ask hholds rfl).leave k
  | answered answer k => exact h.leave k
  | guardAnswered answer k account hstage => exact h.setStage (h.holder_first k _ hstage rfl) rfl
  | calls k account hstage => exact h.ask (h.holder_first k _ hstage rfl) rfl
  | callsAnswered answer k account hstage =>
    have hholds := h.holder_first k _ hstage rfl
    exact (h.ask hholds rfl).setStage hholds rfl
  | cancelCall k account hstage => exact h.setStage (h.holder_first k _ hstage rfl) rfl
  | leave k => exact h.leave k

/-! ### Source calls, step by step -/

omit [DecidableEq Account] in
/-- The source calls of a step: those that the stages after it account for, but for the decision
    that ends, which has made one if it has a result and no more than one otherwise. -/
inductive Balance (t t' : Tracker Account bits) :
    Option (Ticket × Option (Except (NonceError bits) (Nonce bits))) → Prop where
  | goesOn (hcalls : ∀ j, t'.openCalls j = t.openCalls j + t.newCalls t' j) : Balance t t' none
  | ends (k : Ticket) (result : Option (Except (NonceError bits) (Nonce bits)))
      (hothers : ∀ j, j ≠ k → t'.openCalls j = t.openCalls j + t.newCalls t' j)
      (hover : t'.openCalls k = 0) (hle : t.openCalls k + t.newCalls t' k ≤ 1)
      (hone : result.isSome → t.openCalls k + t.newCalls t' k = 1) : Balance t t' (some (k, result))

theorem Step.callsOf_le (h : Step t action outcome t') (j : Ticket) :
    t.callsOf j ≤ t'.callsOf j := by
  cases h <;> simp

omit [DecidableEq Account] in
/-- A ticket that goes on with a decision, or with none, ends none. -/
theorem over?_eq_none (hout : ∀ result, outcome ≠ .answered result)
    (hgoes : ∀ k, action.ticket? = some k → t.decides k = true → t'.decides k = true) :
    t.over? action outcome t' = none := by
  rw [over?]
  cases hk : action.ticket? with
  | none => rfl
  | some k =>
    have hnot : ¬ (t.decides k && !t'.decides k) = true := by
      intro hover
      rw [Bool.and_eq_true, Bool.not_eq_true'] at hover
      rw [hgoes k hk hover.1] at hover
      cases hover.2
    cases outcome with
    | answered result => exact absurd rfl (hout result)
    | pending => exact if_neg hnot
    | locked => exact if_neg hnot

omit [DecidableEq Account] in
/-- A decision that is given up after at most one source call. -/
theorem balance_givenUp (hk : action.ticket? = some k) (hbefore : t.decides k = true)
    (hafter : t'.decides k = false) (hothers : ∀ j, j ≠ k → t'.openCalls j = t.openCalls j)
    (hcalls : ∀ j, t'.callsOf j = t.callsOf j) : Balance t t' (t.over? action .pending t') := by
  have hover : t.over? action .pending t' = some (k, none) := by
    simp only [over?, hk, hbefore, hafter, Bool.not_false, Bool.and_true, if_true]
  have hnew : ∀ j, t.newCalls t' j = 0 := fun j => by rw [newCalls, hcalls, Nat.sub_self]
  rw [hover]
  refine .ends k none (fun j hj => ?_) (openCalls_of_not_decides hafter) ?_ (fun h => by cases h)
  · rw [hothers j hj, hnew, Nat.add_zero]
  · rw [hnew, Nat.add_zero]
    exact openCalls_le_one

omit [DecidableEq Account] in
/-- Who enters the line is at no decision that has called the source. -/
theorem balance_join (ht : t.Tidy) (hs : s.calls = 0) : Balance t (t.join s).2 none := by
  refine .goesOn fun j => ?_
  rw [openCalls_join, newCalls, callsOf_join, Nat.sub_self, Nat.add_zero]
  by_cases hj : j = t.fresh
  · rw [if_pos hj, hs, hj, openCalls, ht.stage?_fresh]
    rfl
  · rw [if_neg hj]

omit [DecidableEq Account] in
/-- A decision that ends with a result. -/
theorem balance_answered {result : Except (NonceError bits) (Nonce bits)}
    (hothers : ∀ j, j ≠ k → t'.openCalls j = t.openCalls j ∧ t'.callsOf j = t.callsOf j)
    (hover : t'.openCalls k = 0) (hone : t.openCalls k + t.newCalls t' k = 1) :
    Balance t t' (some (k, some result)) := by
  refine .ends k _ (fun j hj => ?_) hover (Nat.le_of_eq hone) fun _ => hone
  obtain ⟨hopen, hcalls⟩ := hothers j hj
  rw [newCalls, hopen, hcalls, Nat.sub_self, Nat.add_zero]

/-- **Every source call is accounted for.** -/
theorem Step.balance (h : Step t action outcome t') (ht : t.Tidy) :
    Balance t t' (t.over? action outcome t') := by
  cases h with
  | idle action =>
    rw [over?_eq_none (by simp) (fun _ _ h => h)]
    exact .goesOn fun j => by simp [newCalls]
  | request account => exact balance_join ht rfl
  | lock => exact balance_join ht rfl
  | tryLock hfree => exact balance_join ht rfl
  | granted source k hstage hholds =>
    rw [over?_eq_none (by simp) (by simp [Action.ticket?, decides, hstage, Stage.decides])]
    refine .goesOn fun j => ?_
    by_cases hj : j = k <;> simp [hj, newCalls, Stage.calls, openCalls_of_stage? hstage]
  | holding =>
    rw [over?_eq_none (by simp) (fun _ _ h => h)]
    exact .goesOn fun j => by simp [newCalls]
  | asks k account hstage hholds =>
    rw [over?_eq_none (by simp) (by simp [Action.ticket?, decides, Stage.decides])]
    refine .goesOn fun j => ?_
    by_cases hj : j = k <;> simp [hj, newCalls, Stage.calls, openCalls_of_stage? hstage]
  | asksAnswered answer k account hstage hholds =>
    -- The call and the end of the decision in one step.
    refine balance_answered (fun j hj => by simp [hj]) (by simp) ?_
    simp [newCalls, openCalls_of_stage? hstage, Stage.calls]
  | answered answer k account hstage =>
    refine balance_answered (fun j hj => by simp [hj]) (by simp) ?_
    simp [newCalls, openCalls_of_stage? hstage, Stage.calls]
  | guardAnswered answer k account hstage =>
    refine balance_answered (fun j hj => by simp [hj]) (by simp [Stage.calls]) ?_
    simp [newCalls, openCalls_of_stage? hstage, Stage.calls]
  | calls k account hstage =>
    rw [over?_eq_none (by simp) (by simp [Action.ticket?, decides, Stage.decides])]
    refine .goesOn fun j => ?_
    by_cases hj : j = k <;> simp [hj, newCalls, Stage.calls, openCalls_of_stage? hstage]
  | callsAnswered answer k account hstage =>
    refine balance_answered (fun j hj => by simp [hj]) (by simp [Stage.calls]) ?_
    simp [newCalls, openCalls_of_stage? hstage, Stage.calls]
  | cancelCall k account hstage =>
    exact balance_givenUp rfl (by simp [decides, hstage, Stage.decides])
      (by simp [decides, Stage.decides]) (fun j hj => by simp [hj]) (fun j => callsOf_setStage)
  | leave k =>
    cases hd : t.decides k with
    | true =>
      exact balance_givenUp rfl hd (by simp [decides]) (fun j hj => by simp [hj])
        (fun j => callsOf_leave)
    | false =>
      -- Nobody's decision, whether it was a guard, a wait for one, or nothing at all.
      rw [over?_eq_none (by simp) (by simp [Action.ticket?, hd])]
      refine .goesOn fun j => ?_
      by_cases hj : j = k <;> simp [hj, newCalls, openCalls_of_not_decides hd]

end Tracker

end NonceAllocation
