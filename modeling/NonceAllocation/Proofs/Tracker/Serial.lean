import NonceAllocation.Proofs.Tracker.Presence

namespace NonceAllocation

/-!
# Trackers — one decision at a time

However the steps of requests and guards interleave, and whatever is abandoned on the way, decisions
are made one after the other, and a lock that nobody uses is free:

* `Tracker.regrant`, `Tracker.barge` — the freedom of a lock of which nothing is known but that it
  is given to one at a time;
* `Watch`, `Watch.step`, `Watch.run` — a tracker with the source calls of each decision, and with
  those who are there;
* `Watch.Sound`, `Watch.Sound.step`, `Watch.Sound.run` — what every step keeps;
* `Watch.Serial`, `Watch.serial_run` — what holds at every moment of every run.
-/

variable {Account : Type} {bits : Nat}

namespace Tracker

variable {t : Tracker Account bits} {k : Ticket} {s : Stage Account}

/-! ### Locks of any kind -/

/-- Whether somebody has been given the lock. -/
def isGiven (t : Tracker Account bits) : Bool :=
  t.line.any fun k => (t.stage? k).any Stage.hasLock

/-- The lock prefers those who wait in another order; who has been given it keeps it. -/
def regrant (t : Tracker Account bits) (line : List Ticket) : Tracker Account bits :=
  if line.Perm t.line ∧ (t.isGiven = true → line.head? = t.line.head?) then { t with line } else t

/-- A guard that is given the lock past all who wait, if nobody has been given it. -/
def barge (t : Tracker Account bits) : Tracker Account bits :=
  if t.isGiven = true then t else { (t.join .holding).2 with line := t.fresh :: t.line }

theorem Tidy.isGiven (h : t.Tidy) (hs : t.stage? k = some s) (hlock : s.hasLock = true) :
    t.isGiven = true := by
  have hmem : k ∈ t.line := (h.mem_line_iff k).2 (by rw [hs]; rfl)
  exact List.any_eq_true.2 ⟨k, hmem, by rw [hs]; exact hlock⟩

/-- Another order of the line, in which whoever has been given the lock is still the first. -/
theorem Tidy.reorder (h : t.Tidy) {line : List Ticket} (hline : line.Perm t.line)
    (hhead : t.isGiven = true → line.head? = t.line.head?) : Tidy { t with line } where
  lt_fresh k hk := h.lt_fresh k (hline.mem_iff.1 hk)
  holder_first k s hs hlock := by
    show (line.head? == some k) = true
    rw [hhead (h.isGiven hs hlock)]
    exact h.holder_first k s hs hlock
  mem_line_iff k := hline.mem_iff.trans (h.mem_line_iff k)
  fresh_silent := h.fresh_silent
  waiting_silent := h.waiting_silent

theorem Tidy.regrant (h : t.Tidy) (line : List Ticket) : (t.regrant line).Tidy := by
  rw [Tracker.regrant]
  split
  · rename_i hline
    exact h.reorder hline.1 hline.2
  · exact h

theorem Tidy.barge (h : t.Tidy) : t.barge.Tidy := by
  rw [Tracker.barge]
  split
  · exact h
  · rename_i hgiven
    -- Whoever waits, the newcomer is the only one with the lock.
    have hperm : (t.fresh :: t.line).Perm (t.line ++ [t.fresh]) :=
      (List.perm_append_singleton t.fresh t.line).symm
    refine h.enter hperm fun j r hj hr => ?_
    rw [stage?_join] at hj
    by_cases hfresh : j = t.fresh
    · rw [hfresh]
      rfl
    · rw [if_neg hfresh] at hj
      exact absurd (h.isGiven hj hr) hgiven

theorem Shows.regrant {p : Presence} (h : t.Shows p) (line : List Ticket) :
    (t.regrant line).Shows p := by
  rw [Tracker.regrant]
  split <;> exact h

/-- A guard has come, if nobody had the lock. -/
theorem Shows.barge {p : Presence} (h : t.Shows p) :
    t.barge.Shows (if t.isGiven = true then p else Function.update p t.fresh (some .guard)) := by
  rw [Tracker.barge]
  split
  · exact h
  · exact h.join .holding

@[simp] theorem callsOf_regrant (line : List Ticket) :
    (t.regrant line).callsOf k = t.callsOf k := by
  rw [Tracker.regrant]
  split <;> rfl

@[simp] theorem openCalls_regrant (line : List Ticket) :
    (t.regrant line).openCalls k = t.openCalls k := by
  rw [Tracker.regrant]
  split <;> rfl

@[simp] theorem callsOf_barge : t.barge.callsOf k = t.callsOf k := by
  rw [Tracker.barge]
  split <;> rfl

/-- A guard that enters is at no decision yet. -/
theorem openCalls_barge (h : t.Tidy) : t.barge.openCalls k = t.openCalls k := by
  rw [Tracker.barge]
  split
  · rfl
  · show (t.join .holding).2.openCalls k = _
    rw [openCalls_join]
    by_cases hk : k = t.fresh
    · rw [if_pos hk, hk, openCalls, h.stage?_fresh]
      rfl
    · rw [if_neg hk]

/-- The lock is free exactly if nobody is there. -/
theorem Tidy.isFree_iff (h : t.Tidy) : t.isFree = true ↔ ∀ k, t.stage? k = none := by
  rw [isFree, List.isEmpty_iff, List.eq_nil_iff_forall_not_mem]
  refine forall_congr' fun k => ?_
  rw [h.mem_line_iff, Option.not_isSome_iff_eq_none]

theorem tryLock?_of_isFree (h : t.isFree = true) : t.tryLock? = some (t.join .holding) := by
  rw [tryLock?, if_pos h]

theorem tryLock?_eq_none (h : t.isFree = false) : t.tryLock? = none := by
  rw [tryLock?, if_neg (by simp [h])]

end Tracker

/-! ### Runs -/

/-- A decision that has come to its end. -/
structure Ended (bits : Nat) where
  ticket : Ticket
  /-- The source calls that it has made. -/
  calls : Nat
  /-- What it has come to; `none` if it has been abandoned. -/
  result : Option (Except (NonceError bits) (Nonce bits))

/-- A tracker, those who are there, and the source calls of each decision. -/
structure Watch (Account : Type) (bits : Nat) where
  tracker : Tracker Account bits
  /-- Who is there, as it has come about. -/
  present : Presence
  /-- The source calls of the decision that a ticket is at. -/
  calls : Ticket → Nat
  ended : List (Ended bits)

namespace Watch

/-- What can happen next. -/
inductive Event (Account : Type) (bits : Nat) where
  /-- A task goes on, is abandoned, or a guard is released. -/
  | use (action : Tracker.Action Account bits)
  /-- The lock changes its mind about who is the next. -/
  | regrant (line : List Ticket)
  /-- A guard is given the lock past those who wait. -/
  | barge
  /-- Somebody changes the ledger. -/
  | write (ledger : Ledger Account bits)

/-- Nobody has come yet. -/
def start (ledger : Ledger Account bits) : Watch Account bits where
  tracker := .new ledger
  present _ := none
  calls _ := 0
  ended := []

/-- Counts the source calls of a step, and tells who is there after it.  The calls of a decision
    that ends are kept with it, and the next one begins with none. -/
def record (w : Watch Account bits) (action : Tracker.Action Account bits) (outcome : Outcome bits)
    (t : Tracker Account bits) : Watch Account bits :=
  let made := fun j => w.calls j + w.tracker.newCalls t j
  let present := w.present.after w.tracker.fresh action outcome
  match w.tracker.over? action outcome t with
  | none => { tracker := t, present, calls := made, ended := w.ended }
  | some (k, result) =>
    { tracker := t
      present
      calls := fun j => if j = k then 0 else made j
      ended := ⟨k, made k, result⟩ :: w.ended }

/-- The source calls of a ticket's decisions that have ended. -/
def endedCalls (w : Watch Account bits) (k : Ticket) : Nat :=
  w.ended.foldr (fun e n => if e.ticket = k then e.calls + n else n) 0

variable [DecidableEq Account]

def step (w : Watch Account bits) : Event Account bits → Watch Account bits
  | .use action => w.record action (w.tracker.act action).1 (w.tracker.act action).2
  | .regrant line => { w with tracker := w.tracker.regrant line }
  | .barge =>
    { w with
      tracker := w.tracker.barge
      present :=
        if w.tracker.isGiven = true then w.present
        else Function.update w.present w.tracker.fresh (some .guard) }
  | .write ledger => { w with tracker := w.tracker.mapLedger fun _ => ledger }

/-- Events one after the other. -/
def run (w : Watch Account bits) (events : List (Event Account bits)) : Watch Account bits :=
  events.foldl step w

/-! ### What every step keeps -/

omit [DecidableEq Account] in
/-- The invariant of all runs. -/
structure Sound (w : Watch Account bits) : Prop where
  tidy : w.tracker.Tidy
  shows : w.tracker.Shows w.present
  /-- A decision has made the calls that its stage tells. -/
  calls_eq : ∀ k, w.calls k = w.tracker.openCalls k
  /-- No call is left out. -/
  accounted : ∀ k, w.tracker.callsOf k = w.endedCalls k + w.calls k
  ended : ∀ e ∈ w.ended, e.calls ≤ 1 ∧ (e.result.isSome → e.calls = 1)

omit [DecidableEq Account] in
theorem sound_start (ledger : Ledger Account bits) : (start ledger).Sound where
  tidy := .new ledger
  shows := .new ledger
  calls_eq k := rfl
  accounted k := rfl
  ended e he := by cases he

namespace Sound

variable {w : Watch Account bits} {action : Tracker.Action Account bits} {outcome : Outcome bits}
  {t : Tracker Account bits}

theorem record (h : w.Sound) (hstep : Tracker.Step w.tracker action outcome t)
    (hshows : t.Shows (w.present.after w.tracker.fresh action outcome)) :
    (w.record action outcome t).Sound := by
  -- What a decision has made by now, and what those before it have, is all there is of a ticket.
  have hmade : ∀ j, w.calls j + w.tracker.newCalls t j + w.endedCalls j = t.callsOf j := by
    intro j
    have hle := hstep.callsOf_le j
    have haccounted := h.accounted j
    rw [Tracker.newCalls]
    omega
  have hbalance := hstep.balance h.tidy
  rw [Watch.record]
  generalize w.tracker.over? action outcome t = finished at hbalance ⊢
  cases hbalance with
  | goesOn hcalls =>
    refine
      { tidy := h.tidy.step hstep
        shows := hshows
        calls_eq := fun j => ?_
        accounted := fun j => ?_
        ended := h.ended }
    · show w.calls j + _ = _
      rw [h.calls_eq, hcalls]
    · rw [← hmade, Nat.add_comm]
      rfl
  | ends k result hothers hover hle hone =>
    rw [← h.calls_eq] at hle hone
    refine
      { tidy := h.tidy.step hstep
        shows := hshows
        calls_eq := fun j => ?_
        accounted := fun j => ?_
        ended := fun e he => ?_ }
    · show (if j = k then 0 else w.calls j + _) = _
      by_cases hj : j = k
      · rw [if_pos hj, hj, hover]
      · rw [if_neg hj, h.calls_eq, hothers j hj]
    · -- The calls of the decision that has ended go over to those of the ended ones.
      show t.callsOf j = (if k = j then w.calls k + _ + w.endedCalls j else w.endedCalls j) +
        if j = k then 0 else w.calls j + _
      rw [← hmade]
      by_cases hj : j = k
      · rw [if_pos hj, if_pos hj.symm, hj, Nat.add_zero]
      · rw [if_neg hj, if_neg (Ne.symm hj), Nat.add_comm]
    · rcases List.mem_cons.1 he with rfl | he
      · exact ⟨hle, hone⟩
      · exact h.ended e he

omit [DecidableEq Account] in
/-- Whatever changes neither the decisions nor their calls keeps the invariant. -/
theorem of_calls_eq (h : w.Sound) (ht : t.Tidy) {p : Presence} (hp : t.Shows p)
    (hopen : ∀ k, t.openCalls k = w.tracker.openCalls k)
    (hcalls : ∀ k, t.callsOf k = w.tracker.callsOf k) :
    Sound { w with tracker := t, present := p } where
  tidy := ht
  shows := hp
  calls_eq k := (h.calls_eq k).trans (hopen k).symm
  accounted k := (hcalls k).trans (h.accounted k)
  ended := h.ended

theorem step (h : w.Sound) (event : Event Account bits) : (w.step event).Sound := by
  cases event with
  | use action => exact h.record (Tracker.step_act w.tracker action) (h.shows.act action)
  | regrant line =>
    exact h.of_calls_eq (h.tidy.regrant line) (h.shows.regrant line) (by simp) (by simp)
  | barge =>
    have hopen : ∀ k, w.tracker.barge.openCalls k = w.tracker.openCalls k :=
      fun _ => Tracker.openCalls_barge h.tidy
    exact h.of_calls_eq h.tidy.barge h.shows.barge hopen (by simp)
  | write ledger =>
    have htidy : (w.tracker.mapLedger fun _ => ledger).Tidy := { h.tidy with }
    exact h.of_calls_eq htidy h.shows (fun _ => rfl) (fun _ => rfl)

theorem run (h : w.Sound) (events : List (Event Account bits)) : (w.run events).Sound := by
  induction events generalizing w with
  | nil => exact h
  | cons event events ih => exact ih (h.step event)

omit [DecidableEq Account] in
/-- A decision that has called the source is one of a ticket that has the lock. -/
theorem hasLock_of_calls (h : w.Sound) {k : Ticket} (hk : 0 < w.calls k) :
    ∃ s, w.tracker.stage? k = some s ∧ s.hasLock = true := by
  rw [h.calls_eq, Tracker.openCalls] at hk
  cases hs : w.tracker.stage? k with
  | none => simp [hs] at hk
  | some s =>
    rw [hs] at hk
    exact ⟨s, rfl, Stage.hasLock_of_calls hk⟩

/-- Whoever is told a result has made one source call for it, and is a request that is there no
    longer or a guard that is idle again. -/
theorem told (h : w.Sound) {result : Except (NonceError bits) (Nonce bits)}
    (hout : (w.tracker.act action).1 = .answered result) :
    ∃ k, action.ticket? = some k ∧
      (w.step (.use action)).ended = ⟨k, 1, some result⟩ :: w.ended ∧
      (w.present k = some .request ∧ (w.tracker.act action).2.stage? k = none ∨
        w.present k = some .guard ∧ (w.tracker.act action).2.stage? k = some .holding) := by
  have hstep := Tracker.step_act w.tracker action
  rw [hout] at hstep
  obtain ⟨k, s, hk, hs, hafter⟩ := hstep.of_answered
  have hover : w.tracker.over? action (.answered result) (w.tracker.act action).2
      = some (k, some result) := by
    rw [Tracker.over?, hk]
  have hended : (w.step (.use action)).ended =
      ⟨k, w.calls k + w.tracker.newCalls (w.tracker.act action).2 k, some result⟩ :: w.ended := by
    rw [Watch.step, hout, Watch.record, hover]
  refine ⟨k, hk, ?_, ?_⟩
  · have hone := ((h.step (.use action)).ended _ (hended ▸ List.mem_cons_self)).2 rfl
    rw [hended]
    exact congrArg (fun n => Ended.mk k n (some result) :: w.ended) hone
  · rw [h.shows.role_eq hs, Option.some.injEq, Option.some.injEq]
    exact hafter

omit [DecidableEq Account] in
/-- The lock is free exactly if nobody is there. -/
theorem isFree_iff (h : w.Sound) : w.tracker.isFree = true ↔ ∀ k, w.present k = none := by
  rw [h.tidy.isFree_iff]
  exact forall_congr' fun k => h.shows.stage?_eq_none_iff

/-- The lock is free after an action if the only one who was there is there no longer. -/
theorem isFree_act (h : w.Sound) {k : Ticket} (hk : action.ticket? = some k)
    (hgone : (w.tracker.act action).2.stage? k = none)
    (hothers : ∀ j, j ≠ k → w.present j = none) : (w.tracker.act action).2.isFree = true := by
  have htidy := h.tidy.step (Tracker.step_act w.tracker action)
  refine htidy.isFree_iff.2 fun j => ?_
  by_cases hj : j = k
  · rw [hj, hgone]
  · have hnone : w.tracker.stage? j = none := h.shows.stage?_eq_none_iff.2 (hothers j hj)
    rw [(Tracker.step_act w.tracker action).stage?_of_ne hk hj, hnone]

end Sound

/-! ### What holds at every moment -/

/-- Decisions one at a time, on a lock that is always given back. -/
structure Serial (w : Watch Account bits) : Prop where
  /-- Those have a stage, and one of their role, who have come and have neither been told their
      result, as requests, nor been given up. -/
  shows : w.tracker.Shows w.present
  /-- Whoever comes next has the ticket of nobody who is there. -/
  newcomer : w.present w.tracker.fresh = none
  /-- No two have the lock. -/
  one_holder : ∀ j k r s, w.tracker.stage? j = some r → r.hasLock = true →
    w.tracker.stage? k = some s → s.hasLock = true → j = k
  /-- A guard has it as long as it is there. -/
  guard_holds : ∀ k, w.present k = some .guard →
    ∃ s, w.tracker.stage? k = some s ∧ s.hasLock = true
  /-- At most one decision is between its source call and its end. -/
  one_inside : ∀ j k, 0 < w.calls j → 0 < w.calls k → j = k
  /-- Who waits for the lock has called nobody. -/
  waiting_silent : ∀ k s, w.tracker.stage? k = some s → s.hasLock = false → w.tracker.callsOf k = 0
  /-- No guard is given out as long as somebody has the lock, or is the next to take it. -/
  tryLock_none : ∀ k s, w.tracker.stage? k = some s →
    s.hasLock = true ∨ w.tracker.holds k = true → w.tracker.tryLock? = none
  /-- A decision that ends with a result has made one source call. -/
  one_call : ∀ e ∈ w.ended, e.result.isSome → e.calls = 1
  /-- One that is abandoned, or still under way, has made one at most. -/
  calls_le_one : (∀ e ∈ w.ended, e.calls ≤ 1) ∧ ∀ k, w.calls k ≤ 1
  /-- These are all source calls that there have been. -/
  accounted : ∀ k, w.tracker.callsOf k = w.endedCalls k + w.calls k
  /-- Whoever is told a result next, be it a nonce or an error, will be among those that have ended.
      A request then has no stage any longer, a guard is idle again. -/
  told : ∀ action result, (w.tracker.act action).1 = .answered result →
    ∃ k, action.ticket? = some k ∧
      (w.step (.use action)).ended = ⟨k, 1, some result⟩ :: w.ended ∧
      (w.present k = some .request ∧ (w.tracker.act action).2.stage? k = none ∨
        w.present k = some .guard ∧ (w.tracker.act action).2.stage? k = some .holding)
  /-- The lock is free exactly if no guard is there and no request or wait for the lock. -/
  free_iff : w.tracker.isFree = true ↔ ∀ k, w.present k = none
  /-- Then it is given to whoever tries. -/
  tryLock_some : (∀ k, w.present k = none) → w.tracker.tryLock?.isSome
  /-- A request that is told its result, whatever it is, leaves the lock free if nobody else is
      there. -/
  free_of_told : ∀ action result k, (w.tracker.act action).1 = .answered result →
    action.ticket? = some k → w.present k = some .request → (∀ j, j ≠ k → w.present j = none) →
    (w.tracker.act action).2.isFree = true
  /-- So does whoever is given up. -/
  free_of_leave : ∀ k, (∀ j, j ≠ k → w.present j = none) → (w.tracker.leave k).isFree = true

theorem Sound.serial {w : Watch Account bits} (h : w.Sound) : w.Serial where
  shows := h.shows
  newcomer := h.shows.stage?_eq_none_iff.1 h.tidy.stage?_fresh
  one_holder j k r s hj hr hk hs := h.tidy.unique hj hr hk hs
  guard_holds k hk := by
    rw [← h.shows k, Option.map_eq_some_iff] at hk
    obtain ⟨s, hs, hrole⟩ := hk
    exact ⟨s, hs, Stage.hasLock_of_role hrole⟩
  one_inside j k hj hk := by
    obtain ⟨r, hr, hr'⟩ := h.hasLock_of_calls hj
    obtain ⟨s, hs, hs'⟩ := h.hasLock_of_calls hk
    exact h.tidy.unique hr hr' hs hs'
  waiting_silent := h.tidy.waiting_silent
  tryLock_none k s hs _ := by
    refine Tracker.tryLock?_eq_none (Bool.eq_false_iff.2 fun hfree => ?_)
    rw [h.tidy.isFree_iff.1 hfree k] at hs
    cases hs
  one_call e he := (h.ended e he).2
  calls_le_one := ⟨fun e he => (h.ended e he).1, fun k => h.calls_eq k ▸ Tracker.openCalls_le_one⟩
  accounted := h.accounted
  told action result hout := h.told hout
  free_iff := h.isFree_iff
  tryLock_some hnobody := by
    rw [Tracker.tryLock?_of_isFree (h.isFree_iff.2 hnobody)]
    rfl
  free_of_told action result k hout hk hrequest hothers := by
    obtain ⟨k', hk', -, hafter⟩ := h.told hout
    obtain rfl : k' = k := Option.some.inj (hk'.symm.trans hk)
    rcases hafter with ⟨-, hgone⟩ | ⟨hguard, -⟩
    · exact h.isFree_act hk hgone hothers
    · rw [hrequest] at hguard
      cases hguard
  free_of_leave k hothers := by
    have hgone : (w.tracker.act (.leave k)).2.stage? k = none := by simp [Tracker.act]
    exact h.isFree_act rfl hgone hothers

/-- **Decisions are made one at a time, and the lock is always given back.**  However requests and
    guards interleave, wherever they are abandoned and whatever the source answers, on a lock of
    which nothing is known but that it is given to one at a time. -/
theorem serial_run (ledger : Ledger Account bits) (events : List (Event Account bits)) :
    ((start ledger).run events).Serial :=
  ((sound_start ledger).run events).serial

/-- A guard is told of a failure and goes, and so is the request that has waited for it. -/
def failures : List (Event Nat 64) :=
  [.use .tryLock, .use (.request 7), .use (.poll none 1),
    .use (.call (some (.error (.transport "down"))) 0 7), .use (.leave 0),
    .use (.poll none 1), .use (.poll (some (.error (.transport "down"))) 1)]

/-- After two failures nobody is there, and the lock is free. -/
theorem serial_run_failures :
    ((start .empty).run failures).ended.map (fun e => (e.ticket, e.calls, e.result)) =
        [(1, 1, some (.error (.network "down"))), (0, 1, some (.error (.network "down")))] ∧
      (∀ k, ((start .empty).run failures).present k = none) ∧
      ((start .empty).run failures).tracker.isFree = true := by
  have hserial := serial_run (.empty : Ledger Nat 64) failures
  have hfree : ((start .empty).run failures).tracker.isFree = true := by decide +kernel
  exact ⟨by decide +kernel, hserial.free_iff.1 hfree, hfree⟩

/-- A guard abandons a question and is told of a failure, while a request waits that is abandoned in
    its turn once it has asked. -/
example :
    let w := (start (.empty : Ledger Nat 64)).run
      [.use .tryLock, .use (.request 7), .use (.poll none 1), .use .tryLock,
        .use (.call none 0 7), .use (.cancelCall 0),
        .use (.call (some (.error (.transport "down"))) 0 7), .use (.leave 0),
        .use (.poll none 1), .use (.leave 1)]
    w.ended.map (fun e => (e.ticket, e.calls, e.result.isSome)) =
        [(1, 1, false), (0, 1, true), (0, 1, false)] ∧
      w.tracker.isFree = true := by
  decide +kernel

end Watch

end NonceAllocation
