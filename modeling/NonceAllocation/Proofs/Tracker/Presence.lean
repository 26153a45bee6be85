import Mathlib.Logic.Function.Basic
import NonceAllocation.Proofs.Tracker.Calls

namespace NonceAllocation

/-!
# Trackers — who is there

A request is there from its entering until it is told a result or given up.  A guard is there until
it is given up, whatever it is told in between.  Who is there is told by what happens alone, and the
stages of the tracker say the same.

* `Role`, `Stage.role` — what somebody is there for;
* `Presence`, `Presence.after` — who is there, as actions and outcomes tell it;
* `Tracker.Shows`, `Tracker.Shows.act` — the stages of a tracker say so, and do after every action;
* `Tracker.Step.of_answered` — what becomes of whoever is told a result.
-/

/-- What somebody is there for. -/
inductive Role where
  /-- To be told one result. -/
  | request
  /-- To be given the lock as a guard. -/
  | wait
  /-- To ask under the lock, as often as it likes. -/
  | guard
deriving DecidableEq

def Stage.role {Account : Type} : Stage Account → Role
  | .queuedToAsk _ | .asking _ => .request
  | .queuedToHold => .wait
  | .holding | .holdingAsking _ => .guard

theorem Stage.hasLock_of_role {Account : Type} {s : Stage Account} (h : s.role = .guard) :
    s.hasLock = true := by
  cases s <;> simp_all [role, hasLock]

/-- Who is there, and for what. -/
abbrev Presence := Ticket → Option Role

variable {Account : Type} {bits : Nat}

/-- Who is there after an action that has come to `outcome`; whoever enters has the ticket
    `fresh`. -/
def Presence.after (p : Presence) (fresh : Ticket) (action : Tracker.Action Account bits)
    (outcome : Outcome bits) : Presence :=
  match action, outcome with
  | .request _, _ => Function.update p fresh (some .request)
  | .lock, _ => Function.update p fresh (some .wait)
  | .tryLock, .locked => Function.update p fresh (some .guard)
  | .poll _ k, .locked => Function.update p k (some .guard)
  | .poll _ k, .answered _ =>
    -- Whatever the result is, a request goes with it and a guard stays.
    if p k = some .request then Function.update p k none else p
  | .leave k, _ => Function.update p k none
  | _, _ => p

namespace Tracker

/-- Whether exactly those who are there have a stage, and one of their role. -/
def Shows (t : Tracker Account bits) (p : Presence) : Prop :=
  ∀ k, (t.stage? k).map Stage.role = p k

variable {t t' : Tracker Account bits} {p : Presence} {k : Ticket} {s r : Stage Account}

namespace Shows

theorem new (ledger : Ledger Account bits) : (Tracker.new ledger).Shows fun _ => none :=
  fun _ => rfl

theorem role_eq (h : t.Shows p) (hs : t.stage? k = some s) : p k = some s.role := by
  rw [← h k, hs]
  rfl

theorem stage?_eq_none_iff (h : t.Shows p) : t.stage? k = none ↔ p k = none := by
  rw [← h k, Option.map_eq_none_iff]

theorem join (h : t.Shows p) (s : Stage Account) :
    (t.join s).2.Shows (Function.update p t.fresh (some s.role)) := by
  intro j
  rw [stage?_join, Function.update_apply, apply_ite (Option.map Stage.role), h j]
  rfl

theorem setStage (h : t.Shows p) (k : Ticket) (s : Stage Account) :
    (t.setStage k s).Shows (Function.update p k (some s.role)) := by
  intro j
  rw [stage?_setStage, Function.update_apply, apply_ite (Option.map Stage.role), h j]
  rfl

theorem leave (h : t.Shows p) (k : Ticket) : (t.leave k).Shows (Function.update p k none) := by
  intro j
  rw [stage?_leave, Function.update_apply, apply_ite (Option.map Stage.role), h j]
  rfl

/-- Another stage of the same role. -/
theorem keep (h : t.Shows p) (hr : t.stage? k = some r) (hrole : s.role = r.role) :
    (t.setStage k s).Shows p := by
  have hp : Function.update p k (some s.role) = p :=
    Function.update_eq_iff.2 ⟨by rw [hrole, h.role_eq hr], fun _ _ => rfl⟩
  have hset := h.setStage k s
  rwa [hp] at hset

/-- A request that is told its result is there no longer. -/
theorem answered (h : t.Shows p) (hr : t.stage? k = some r) (hrole : r.role = .request) :
    (t.leave k).Shows (if p k = some .request then Function.update p k none else p) := by
  rw [if_pos (by rw [h.role_eq hr, hrole])]
  exact h.leave k

/-- A guard that is told a result is still there. -/
theorem guardAnswered (h : t.Shows p) (hr : t.stage? k = some r) (hrole : r.role = .guard) :
    (t.setStage k .holding).Shows
      (if p k = some .request then Function.update p k none else p) := by
  rw [if_neg (by rw [h.role_eq hr, hrole]; decide)]
  exact h.keep hr hrole.symm

variable [DecidableEq Account]

theorem poll (h : t.Shows p) (source : Source bits) (k : Ticket) :
    (t.poll source k).2.Shows
      (p.after t.fresh (.poll source k : Action Account bits) (t.poll source k).1) := by
  have hstep := step_poll t source k
  generalize t.poll source k = stepped at hstep ⊢
  obtain ⟨outcome, t'⟩ := stepped
  cases hstep with
  | idle => exact h
  | granted source k hstage hholds => exact h.setStage k .holding
  | holding source k hstage =>
    have hp : Function.update p k (some .guard) = p :=
      Function.update_eq_iff.2 ⟨(h.role_eq hstage).symm, fun _ _ => rfl⟩
    show Shows _ (Function.update p k (some .guard))
    rw [hp]
    exact h
  | asks k account hstage hholds => exact h.keep hstage rfl
  | asksAnswered answer k account hstage hholds =>
    -- It asks and is answered in one step, and is a request in between.
    have hasking : (t.ask k account (.asking account)).Shows p := h.keep hstage rfl
    exact hasking.answered (r := .asking account) (by simp) rfl
  | answered answer k account hstage => exact h.answered hstage rfl
  | guardAnswered answer k account hstage => exact h.guardAnswered hstage rfl

/-- **The stages of a tracker tell who is there**, after every action. -/
theorem act (h : t.Shows p) (action : Action Account bits) :
    (t.act action).2.Shows (p.after t.fresh action (t.act action).1) := by
  cases action with
  | request account => exact h.join (.queuedToAsk account)
  | lock => exact h.join .queuedToHold
  | leave k => exact h.leave k
  | poll source k => exact h.poll source k
  | tryLock =>
    have hstep := step_act t .tryLock
    generalize t.act .tryLock = stepped at hstep ⊢
    obtain ⟨outcome, t'⟩ := stepped
    cases hstep with
    | idle => exact h
    | tryLock hfree => exact h.join .holding
  | call source k account =>
    have hstep := step_call t source k account
    show (t.call source k account).2.Shows p
    generalize t.call source k account = stepped at hstep ⊢
    obtain ⟨outcome, t'⟩ := stepped
    cases hstep with
    | idle => exact h
    | calls k account hstage => exact h.keep hstage rfl
    | callsAnswered answer k account hstage =>
      have hasking : (t.ask k account (.holdingAsking account)).Shows p := h.keep hstage rfl
      exact hasking.keep (r := .holdingAsking account) (by simp) rfl
  | cancelCall k =>
    have hstep := step_act t (.cancelCall k)
    show (t.act (.cancelCall k)).2.Shows p
    generalize t.act (.cancelCall k) = stepped at hstep ⊢
    obtain ⟨outcome, t'⟩ := stepped
    cases hstep with
    | idle => exact h
    | cancelCall k account hstage => exact h.keep hstage rfl

end Shows

/-- An action leaves the stages of all others as they were, but for the newcomer. -/
theorem Step.stage?_of_ne [DecidableEq Account] {action : Action Account bits}
    {outcome : Outcome bits} (h : Step t action outcome t') (hk : action.ticket? = some k)
    {j : Ticket} (hj : j ≠ k) : t'.stage? j = t.stage? j := by
  cases h with
  | idle | holding => rfl
  | request | lock | tryLock => cases hk
  | _ =>
    cases hk
    simp [hj]

/-- Whoever is told a result is a request that leaves with it, or a guard that is idle again. -/
theorem Step.of_answered [DecidableEq Account] {action : Action Account bits}
    {result : Except (NonceError bits) (Nonce bits)} (h : Step t action (.answered result) t') :
    ∃ k s, action.ticket? = some k ∧ t.stage? k = some s ∧
      (s.role = .request ∧ t'.stage? k = none ∨ s.role = .guard ∧ t'.stage? k = some .holding) := by
  cases h with
  | asksAnswered answer k account hstage =>
    exact ⟨k, _, rfl, hstage, .inl ⟨rfl, by simp⟩⟩
  | answered answer k account hstage => exact ⟨k, _, rfl, hstage, .inl ⟨rfl, by simp⟩⟩
  | guardAnswered answer k account hstage => exact ⟨k, _, rfl, hstage, .inr ⟨rfl, by simp⟩⟩
  | callsAnswered answer k account hstage => exact ⟨k, _, rfl, hstage, .inr ⟨rfl, by simp⟩⟩

end Tracker

end NonceAllocation
