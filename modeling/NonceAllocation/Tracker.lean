import NonceAllocation.Decision

namespace NonceAllocation

/-!
# The tracker: one decision at a time

A tracker decides nonces over a ledger and a source that is asked once per decision.  Its lock is a
line of tickets: whoever stands first holds the lock, whoever leaves hands it to the next at once,
and a ticket that leaves from the middle is passed over.

* `Stage` — what the holder of a ticket is doing;
* `Tracker.join`, `Tracker.leave` — entering the line, and leaving it by being done or abandoned;
* `Tracker.poll` — lets a ticket go on until it is done or has to wait;
* `Tracker.call`, `Tracker.cancelCall` — a decision under a guard, which keeps the lock.

A decision reads the ledger in the step in which the source answers, so whatever happened to the
ledger while the question was out is seen.
-/

/-- Names a request, or a guard, of one tracker. -/
abbrev Ticket := Nat

/-- What the holder of a ticket is doing. -/
inductive Stage (Account : Type) where
  /-- In line, to ask for the account's nonce once. -/
  | queuedToAsk (account : Account)
  /-- In line, to hold the lock as a guard. -/
  | queuedToHold
  /-- Holds the lock and has asked the source. -/
  | asking (account : Account)
  /-- A guard that asks nothing at present. -/
  | holding
  /-- A guard that has asked the source. -/
  | holdingAsking (account : Account)
deriving DecidableEq

/-- What a step of a ticket comes to. -/
inductive Outcome (bits : Nat) where
  | pending
  | locked
  | answered (result : Except (NonceError bits) (Nonce bits))

/-- The source at one moment: its answer, or `none` while it keeps its callers waiting. -/
abbrev Source (bits : Nat) := Option (Except SourceError (Nonce bits))

structure Tracker (Account : Type) (bits : Nat) where
  ledger : Ledger Account bits
  /-- The lock: the first ticket holds it, the others wait in this order. -/
  line : List Ticket
  stages : List (Ticket × Stage Account)
  /-- All calls of the source so far, the oldest first. -/
  asked : List (Ticket × Account)
  /-- The ticket given out next. -/
  fresh : Ticket

namespace Tracker

variable {Account : Type} {bits : Nat}

/-- A tracker that nobody has used. -/
def new (ledger : Ledger Account bits) : Tracker Account bits where
  ledger
  line := []
  stages := []
  asked := []
  fresh := 0

/-- Whether nobody holds the lock. -/
def isFree (t : Tracker Account bits) : Bool := t.line.isEmpty

/-- Whether `k` holds the lock. -/
def holds (t : Tracker Account bits) (k : Ticket) : Bool := t.line.head? == some k

def stage? (t : Tracker Account bits) (k : Ticket) : Option (Stage Account) := t.stages.lookup k

def setStage (t : Tracker Account bits) (k : Ticket) (s : Stage Account) : Tracker Account bits :=
  { t with stages := (k, s) :: t.stages.filter (fun p => p.1 != k) }

/-! ### Joining and leaving the line -/

/-- Enters the line at its end, with a ticket of its own. -/
def join (t : Tracker Account bits) (s : Stage Account) : Ticket × Tracker Account bits :=
  (t.fresh, { t with
    line := t.line ++ [t.fresh]
    stages := (t.fresh, s) :: t.stages
    fresh := t.fresh + 1 })

/-- Leaves the line: the ticket is done, released or abandoned. -/
def leave (t : Tracker Account bits) (k : Ticket) : Tracker Account bits :=
  { t with
    line := t.line.filter (fun j => j != k)
    stages := t.stages.filter (fun p => p.1 != k) }

/-! ### Asking the source -/

/-- Calls the source, and waits in stage `s` for its answer. -/
def ask (t : Tracker Account bits) (k : Ticket) (account : Account) (s : Stage Account) :
    Tracker Account bits :=
  { t.setStage k s with asked := t.asked ++ [(k, account)] }

/-- What the ticket does once the source has been asked: it waits, or it decides and goes on as
    `next` says. -/
def await [DecidableEq Account] (t : Tracker Account bits) (source : Source bits)
    (account : Account) (next : Tracker Account bits) : Outcome bits × Tracker Account bits :=
  match source with
  | none => (.pending, t)
  | some answer => (.answered (t.ledger.nextNonce account answer), next)

/-- Lets the ticket go on until it is done or has to wait. -/
def poll [DecidableEq Account] (t : Tracker Account bits) (source : Source bits) (k : Ticket) :
    Outcome bits × Tracker Account bits :=
  match t.stage? k with
  | none => (.pending, t)
  | some (.queuedToAsk account) =>
    if t.holds k then
      -- The answer may be there at once, and then the lock is given up in this very step.
      let t := t.ask k account (.asking account)
      t.await source account (t.leave k)
    else (.pending, t)
  | some .queuedToHold =>
    if t.holds k then (.locked, t.setStage k .holding) else (.pending, t)
  | some (.asking account) => t.await source account (t.leave k)
  | some .holding => (.locked, t)
  | some (.holdingAsking account) => t.await source account (t.setStage k .holding)

/-! ### Decisions under a guard -/

/-- A guard asks for the account's nonce, keeping the lock; a ticket that is no idle guard does
    nothing. -/
def call [DecidableEq Account] (t : Tracker Account bits) (source : Source bits) (k : Ticket)
    (account : Account) : Outcome bits × Tracker Account bits :=
  match t.stage? k with
  | some .holding => (t.ask k account (.holdingAsking account)).poll source k
  | _ => (.pending, t)

/-- Abandons the question of a guard; the guard stays. -/
def cancelCall (t : Tracker Account bits) (k : Ticket) : Tracker Account bits :=
  match t.stage? k with
  | some (.holdingAsking _) => t.setStage k .holding
  | _ => t

/-! ### Whole requests -/

/-- A request polled once.  What comes of it, and its ticket if it has to wait. -/
def request [DecidableEq Account] (t : Tracker Account bits) (source : Source bits)
    (account : Account) : Outcome bits × Ticket × Tracker Account bits :=
  let (k, t) := t.join (.queuedToAsk account)
  let (outcome, t) := t.poll source k
  (outcome, k, t)

/-- A wait for the lock, polled once. -/
def lock [DecidableEq Account] (t : Tracker Account bits) :
    Outcome bits × Ticket × Tracker Account bits :=
  let (k, t) := t.join .queuedToHold
  let (outcome, t) := t.poll none k
  (outcome, k, t)

/-- A guard, if nobody holds the lock. -/
def tryLock? (t : Tracker Account bits) : Option (Ticket × Tracker Account bits) :=
  if t.isFree then some (t.join .holding) else none

/-- Changes the ledger, which is not the lock's business. -/
def mapLedger (t : Tracker Account bits) (f : Ledger Account bits → Ledger Account bits) :
    Tracker Account bits :=
  { t with ledger := f t.ledger }

end Tracker

end NonceAllocation
