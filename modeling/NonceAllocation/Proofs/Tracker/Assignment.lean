import NonceAllocation.Proofs.Ledger.Use
import NonceAllocation.Proofs.Tracker.Step
import NonceAllocation.Tracker.Session

namespace NonceAllocation

/-!
# Trackers — assigned nonces

Clients of one tracker take a nonce under a guard and record it as submitted before they give the
guard up, while requests come and go and others write to the ledger.  No nonce is assigned twice:

* `Clients`, `Clients.Event`, `Clients.step`, `Clients.run` — the clients, the tracker and the
  ledger, in any order of steps and with any answers of the source;
* `Clients.Sound`, `Clients.Sound.step`, `Clients.Sound.run` — what every step keeps: whatever was
  assigned is still used, and what a guard has decided and not yet recorded has not been assigned;
* `Clients.assigned_distinct` — the assigned nonces of an account are distinct, and none was in use
  when it was decided, or before.
-/

/-- What a guard has decided. -/
structure Decided (Account : Type) (bits : Nat) where
  account : Account
  nonce : Nonce bits
  /-- The ledger that the decision has read, and all that came before it in the run. -/
  seen : List (Ledger Account bits)

namespace Decided

variable {Account : Type} {bits : Nat}

/-- What must not be assigned twice. -/
def key (d : Decided Account bits) : Account × Nonce bits := (d.account, d.nonce)

/-- Whether the nonce was free when it was decided, and all the time before. -/
def Unused (d : Decided Account bits) : Prop := ∀ l ∈ d.seen, ¬ l.Uses d.account d.nonce

end Decided

/-- Clients of a tracker, as many as take tickets. -/
structure Clients (Account : Type) (bits : Nat) where
  tracker : Tracker Account bits
  /-- What a guard has decided last and has not recorded. -/
  decided : Ticket → Option (Decided Account bits)
  /-- What has been decided and recorded, the latest first. -/
  assigned : List (Decided Account bits)
  /-- The ledgers of the run so far, the present one first. -/
  past : List (Ledger Account bits)

namespace Clients

variable {Account : Type} {bits : Nat}

/-- What can happen next. -/
inductive Event (Account : Type) (bits : Nat) where
  /-- Somebody uses the tracker. -/
  | use (action : Tracker.Action Account bits)
  /-- The client that holds the guard `k` records what it has decided. -/
  | assign (k : Ticket) (record : Record Account bits)
  /-- Somebody else writes to the ledger. -/
  | write (record : Record Account bits)

/-- Nobody has come yet. -/
def start (ledger : Ledger Account bits) : Clients Account bits where
  tracker := .new ledger
  decided _ := none
  assigned := []
  past := [ledger]

/-- The present ledger. -/
def ledger (s : Clients Account bits) : Ledger Account bits := s.tracker.ledger

def store (s : Clients Account bits) (r : Record Account bits) : Clients Account bits :=
  { s with
    tracker := s.tracker.mapLedger (·.put r)
    past := s.ledger.put r :: s.past }

/-- Whether `r` records the decision: a submitted record of the nonce under a fresh id. -/
def Records (s : Clients Account bits) (d : Decided Account bits) (r : Record Account bits) :
    Prop :=
  s.ledger.get? r.id = none ∧ r.account = d.account ∧ r.nonce = some d.nonce ∧ r.status = .submitted

variable [DecidableEq Account]

instance (s : Clients Account bits) (d : Decided Account bits) (r : Record Account bits) :
    Decidable (s.Records d r) :=
  inferInstanceAs (Decidable (_ ∧ _ ∧ _ ∧ _))

/-- What the guard `j` has decided after an action. -/
def decidedAfter (s : Clients Account bits) (action : Tracker.Action Account bits) (j : Ticket) :
    Option (Decided Account bits) :=
  match s.tracker.guardDecision? action with
  | some (k, account, nonce) => if j = k then some ⟨account, nonce, s.past⟩ else s.decided j
  | none => if action.givesUp j then none else s.decided j

/-- One event; `none` if it cannot happen.  A client records each of its decisions once, and others
    write only what takes no used nonce away. -/
def step (s : Clients Account bits) : Event Account bits → Option (Clients Account bits)
  | .use action => some
    { s with
      tracker := (s.tracker.act action).2
      decided := s.decidedAfter action }
  | .assign k r =>
    match s.decided k with
    | none => none
    | some d =>
      if s.Records d r then some
        { s.store r with
          decided := fun j => if j = k then none else s.decided j
          assigned := d :: s.assigned }
      else none
  | .write r => if s.ledger.Admits r then some (s.store r) else none

/-- Events one after the other. -/
def run (s : Clients Account bits) (events : List (Event Account bits)) :
    Option (Clients Account bits) :=
  events.foldlM step s

/-! ### What every step keeps -/

omit [DecidableEq Account] in
/-- The invariant of all runs. -/
structure Sound (s : Clients Account bits) : Prop where
  orderly : s.tracker.Orderly
  /-- Whoever has something to record holds the lock. -/
  guards : ∀ k d, s.decided k = some d →
    ∃ stage, s.tracker.stage? k = some stage ∧ stage.isGuard = true
  unassigned : ∀ k d, s.decided k = some d → d.key ∉ s.assigned.map Decided.key
  decided_unused : ∀ k d, s.decided k = some d → d.Unused
  /-- What has been assigned is still used. -/
  used : ∀ d ∈ s.assigned, s.ledger.Uses d.account d.nonce
  assigned_unused : ∀ d ∈ s.assigned, d.Unused
  distinct : (s.assigned.map Decided.key).Nodup
  /-- What was ever used is still used. -/
  past_used : ∀ l ∈ s.past, ∀ account n, l.Uses account n → s.ledger.Uses account n

omit [DecidableEq Account] in
theorem sound_start (ledger : Ledger Account bits) : (start ledger).Sound where
  orderly := .new ledger
  guards k d h := by cases h
  unassigned k d h := by cases h
  decided_unused k d h := by cases h
  used d h := by cases h
  assigned_unused d h := by cases h
  distinct := List.nodup_nil
  past_used l hl account n hn := by
    rw [List.mem_singleton.1 hl] at hn
    exact hn

namespace Sound

variable {s : Clients Account bits}

omit [DecidableEq Account] in
/-- A nonce that is free now was free all the time, and has not been assigned. -/
theorem unused_of_not_uses (h : s.Sound) {account : Account} {n : Nonce bits}
    (hn : ¬ s.ledger.Uses account n) :
    (∀ l ∈ s.past, ¬ l.Uses account n) ∧ (account, n) ∉ s.assigned.map Decided.key := by
  refine ⟨fun l hl hu => hn (h.past_used l hl account n hu), fun hmem => ?_⟩
  obtain ⟨d, hd, hkey⟩ := List.mem_map.1 hmem
  obtain ⟨rfl, rfl⟩ := Prod.mk.inj hkey
  exact hn (h.used d hd)

/-- A decision that is there after an action was there before, under a guard that stays, or has just
    been made. -/
theorem decidedAfter_cases (h : s.Sound) {action : Tracker.Action Account bits} {j : Ticket}
    {d : Decided Account bits} (hd : s.decidedAfter action j = some d) :
    (s.decided j = some d ∧
        ∃ stage, (s.tracker.act action).2.stage? j = some stage ∧ stage.isGuard = true) ∨
      (d.seen = s.past ∧ (∃ answer, s.ledger.nextNonce d.account answer = .ok d.nonce) ∧
        (s.tracker.act action).2.stage? j = some .holding) := by
  have hstays : s.decided j = some d → action.givesUp j = false →
      ∃ stage, (s.tracker.act action).2.stage? j = some stage ∧ stage.isGuard = true := by
    intro hj hup
    obtain ⟨stage, hstage, hguard⟩ := h.guards j d hj
    exact (Tracker.step_act s.tracker action).isGuard h.orderly hstage hguard hup
  rw [decidedAfter] at hd
  cases hdec : s.tracker.guardDecision? action with
  | none =>
    simp only [hdec] at hd
    cases hup : action.givesUp j with
    | true => simp [hup] at hd
    | false =>
      rw [hup, if_neg (by simp)] at hd
      exact .inl ⟨hd, hstays hd hup⟩
  | some decision =>
    obtain ⟨k, account, nonce⟩ := decision
    obtain ⟨hanswer, hholding⟩ := Tracker.guardDecision?_eq_some hdec
    simp only [hdec] at hd
    by_cases hjk : j = k
    · rw [if_pos hjk, Option.some.injEq] at hd
      subst hd
      rw [hjk]
      exact .inr ⟨rfl, hanswer, hholding⟩
    · rw [if_neg hjk] at hd
      -- The guard `k` decides in this action, so that the action gives nobody up.
      have hup : action.givesUp j = false := by
        cases action <;> simp_all [Tracker.guardDecision?, Tracker.asker?, Tracker.Action.givesUp]
      exact .inl ⟨hd, hstays hd hup⟩

/-- Using the tracker keeps the invariant: a guard decides only what is not in use. -/
theorem use (h : s.Sound) (action : Tracker.Action Account bits) :
    Sound { s with
      tracker := (s.tracker.act action).2
      decided := s.decidedAfter action } := by
  have hstep := Tracker.step_act s.tracker action
  have hkeeps : ∀ account n, s.ledger.Uses account n →
      (s.tracker.act action).2.ledger.Uses account n := by
    intro account n hn
    rw [hstep.ledger_eq]
    exact hn
  refine
    { orderly := h.orderly.step hstep
      guards := fun j d hd => ?_
      unassigned := fun j d hd => ?_
      decided_unused := fun j d hd => ?_
      used := fun d hd => hkeeps _ _ (h.used d hd)
      assigned_unused := h.assigned_unused
      distinct := h.distinct
      past_used := fun l hl account n hn => hkeeps _ _ (h.past_used l hl account n hn) }
  · -- Whatever is decided is decided under a guard that is still there.
    rcases h.decidedAfter_cases hd with ⟨-, hguard⟩ | ⟨-, -, hholding⟩
    · exact hguard
    · exact ⟨.holding, hholding, rfl⟩
  · -- All that was assigned is in use, and a new decision is not.
    rcases h.decidedAfter_cases hd with ⟨hj, -⟩ | ⟨-, ⟨answer, hn⟩, -⟩
    · exact h.unassigned j d hj
    · exact (h.unused_of_not_uses (Ledger.not_uses_of_nextNonce hn)).2
  · rcases h.decidedAfter_cases hd with ⟨hj, -⟩ | ⟨hseen, ⟨answer, hn⟩, -⟩
    · exact h.decided_unused j d hj
    · intro l hl
      rw [hseen] at hl
      exact (h.unused_of_not_uses (Ledger.not_uses_of_nextNonce hn)).1 l hl

omit [DecidableEq Account] in
/-- A write that takes no used nonce away keeps the invariant. -/
theorem store (h : s.Sound) {r : Record Account bits} (hr : s.ledger.Admits r) :
    (s.store r).Sound where
  orderly := ⟨h.orderly.lt_fresh, h.orderly.holder_first⟩
  guards := h.guards
  unassigned := h.unassigned
  decided_unused := h.decided_unused
  used d hd := (h.used d hd).put hr
  assigned_unused := h.assigned_unused
  distinct := h.distinct
  past_used l hl account n hn := by
    rcases List.mem_cons.1 hl with rfl | hl
    · exact hn
    · exact (h.past_used l hl account n hn).put hr

omit [DecidableEq Account] in
/-- Recording a decision keeps the invariant: nobody else has the lock, and so nobody else has
    anything to record. -/
theorem assign (h : s.Sound) {k : Ticket} {d : Decided Account bits} {r : Record Account bits}
    (hd : s.decided k = some d) (hr : s.Records d r) :
    Sound { s.store r with
      decided := fun j => if j = k then none else s.decided j
      assigned := d :: s.assigned } := by
  obtain ⟨hfresh, haccount, hnonce, hstatus⟩ := hr
  have hstore := h.store (Ledger.admits_of_fresh hfresh)
  -- A second decision would be one of a second guard.
  have hothers : ∀ {j e}, (if j = k then none else s.decided j) = some e → False := by
    intro j e he
    by_cases hjk : j = k
    · simp [hjk] at he
    · rw [if_neg hjk] at he
      obtain ⟨stage, hstage, hguard⟩ := h.guards j e he
      obtain ⟨stage', hstage', hguard'⟩ := h.guards k d hd
      exact hjk (h.orderly.unique hstage (Stage.hasLock_of_isGuard hguard) hstage'
        (Stage.hasLock_of_isGuard hguard'))
  refine
    { orderly := hstore.orderly
      guards := fun j e he => (hothers he).elim
      unassigned := fun j e he => (hothers he).elim
      decided_unused := fun j e he => (hothers he).elim
      used := fun e he => ?_
      assigned_unused := fun e he => ?_
      distinct := ?_
      past_used := hstore.past_used }
  · -- The record that has been stored holds the nonce.
    rcases List.mem_cons.1 he with rfl | he
    · exact Ledger.uses_put_self ⟨haccount, Status.isLive_iff.2 (.inr hstatus), hnonce⟩
    · exact hstore.used e he
  · rcases List.mem_cons.1 he with rfl | he
    · exact h.decided_unused k e hd
    · exact h.assigned_unused e he
  · show (d.key :: s.assigned.map Decided.key).Nodup
    exact List.nodup_cons.2 ⟨h.unassigned k d hd, h.distinct⟩

theorem step (h : s.Sound) {event : Event Account bits} {s' : Clients Account bits}
    (hs : s.step event = some s') : s'.Sound := by
  cases event with
  | use action =>
    cases hs
    exact h.use action
  | assign k r =>
    rw [Clients.step] at hs
    cases hd : s.decided k with
    | none => simp [hd] at hs
    | some d =>
      simp only [hd] at hs
      split at hs
      · rename_i hr
        cases hs
        exact h.assign hd hr
      · cases hs
  | write r =>
    rw [Clients.step] at hs
    split at hs
    · rename_i hr
      cases hs
      exact h.store hr
    · cases hs

theorem run {events : List (Event Account bits)} {s s' : Clients Account bits} (h : s.Sound)
    (hs : s.run events = some s') : s'.Sound := by
  induction events generalizing s with
  | nil =>
    cases hs
    exact h
  | cons event events ih =>
    rw [Clients.run, List.foldlM_cons] at hs
    obtain ⟨t, ht, hrest⟩ := Option.bind_eq_some_iff.1 hs
    exact ih (h.step ht) hrest

end Sound

/-- **No nonce is assigned twice.**  Whatever the source answers and in whatever order the steps
    come, the nonces that clients have recorded for an account are distinct, all of them are in use,
    and none was in use on the ledger that its decision has read, or earlier in the run. -/
theorem assigned_distinct (ledger : Ledger Account bits) (events : List (Event Account bits))
    {s : Clients Account bits} (hs : (start ledger).run events = some s) :
    (s.assigned.map fun d => (d.account, d.nonce)).Nodup ∧
      ∀ d ∈ s.assigned, s.ledger.Uses d.account d.nonce ∧
        ∀ l ∈ d.seen, ¬ l.Uses d.account d.nonce := by
  have h := (sound_start ledger).run hs
  exact ⟨h.distinct, fun d hd => ⟨h.used d hd, h.assigned_unused d hd⟩⟩

/-- A client assigns nonce 0 and releases its guard, which goes to a second client that has waited.
    The record is confirmed, the source still answers 0, and the second client assigns 1. -/
def handover : List (Event Nat 64) :=
  let paid : Record Nat 64 := Session.assigned "paid" 7 0
  let late : Record Nat 64 := Session.assigned "late" 7 1
  [.use .lock, .use (.poll none 0), .use .lock,
    .use (.call (some (.ok 0)) 0 7), .assign 0 paid, .use (.leave 0),
    .use (.poll none 1), .write (paid.withStatus .confirmed 0),
    .use (.call (some (.ok 0)) 1 7), .assign 1 late, .use (.leave 1)]

theorem assigned_distinct_handover :
    ∃ s, (start .empty).run handover = some s ∧
      s.assigned.map (fun d => (d.account, d.nonce.val)) = [(7, 1), (7, 0)] ∧
      (s.assigned.map fun d => (d.account, d.nonce)).Nodup ∧
      ∀ d ∈ s.assigned, s.ledger.Uses d.account d.nonce ∧
        ∀ l ∈ d.seen, ¬ l.Uses d.account d.nonce := by
  have hs : ((start .empty).run handover).map
      (fun s => s.assigned.map fun d => (d.account, d.nonce.val)) = some [(7, 1), (7, 0)] := by
    decide +kernel
  obtain ⟨s, hrun, hassigned⟩ := Option.map_eq_some_iff.1 hs
  exact ⟨s, hrun, hassigned, assigned_distinct .empty handover hrun⟩

end Clients

end NonceAllocation
