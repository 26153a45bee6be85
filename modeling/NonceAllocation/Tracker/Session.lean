import NonceAllocation.Tracker

namespace NonceAllocation

/-!
# Sessions: requests and guards by name

A session is a tracker whose waiting requests and whose guards are known by names, and whose source
gives one answer until it is told another, or keeps its callers waiting.

* `Session.next`, `Session.start`, `Session.poll`, `Session.abandon` — requests;
* `Session.lock`, `Session.startLock`, `Session.tryLock`, `Session.release` — guards;
* `Session.guardedNext`, `Session.assign` — decisions under a guard, and recording what was decided.
-/

structure Session (Account : Type) (bits : Nat) where
  tracker : Tracker Account bits
  /-- What the source answers when it answers. -/
  reply : Except SourceError (Nonce bits)
  /-- Whether the source keeps its callers waiting. -/
  held : Bool
  /-- The requests and waits that are not done, by name. -/
  tasks : List (String × Ticket)
  /-- The guards, by name. -/
  guards : List (String × Ticket)

namespace Session

variable {Account : Type} {bits : Nat}

def new (reply : Except SourceError (Nonce bits)) : Session Account bits where
  tracker := .new .empty
  reply
  held := false
  tasks := []
  guards := []

/-- The source as it is at this moment. -/
def source (s : Session Account bits) : Source bits := if s.held then none else some s.reply

/-- Binds `name` to a ticket.  The ticket that the name had before leaves afterwards. -/
def bindTask (s : Session Account bits) (name : String) (k : Ticket) : Session Account bits :=
  { s with
    tracker := ((s.tasks.lookup name).map s.tracker.leave).getD s.tracker
    tasks := (name, k) :: s.tasks.filter (fun p => p.1 != name) }

@[inherit_doc bindTask]
def bindGuard (s : Session Account bits) (name : String) (k : Ticket) : Session Account bits :=
  { s with
    tracker := ((s.guards.lookup name).map s.tracker.leave).getD s.tracker
    guards := (name, k) :: s.guards.filter (fun p => p.1 != name) }

def dropTask (s : Session Account bits) (name : String) : Session Account bits :=
  { s with tasks := s.tasks.filter (fun p => p.1 != name) }

/-- Keeps the ticket of a step under `name` as long as the step calls for it: as a task while it is
    pending, as a guard once it holds the lock. -/
def keep (s : Session Account bits) (name : String) (k : Ticket) :
    Outcome bits → Session Account bits
  | .pending => s.bindTask name k
  | .locked => s.bindGuard name k
  | .answered _ => s

/-! ### Requests -/

/-- A request polled once, and abandoned if it has to wait. -/
def next [DecidableEq Account] (s : Session Account bits) (account : Account) :
    Outcome bits × Session Account bits :=
  let (outcome, k, tracker) := s.tracker.request s.source account
  (outcome, { s with tracker := tracker.leave k })

/-- A request polled once, and kept under `name` if it has to wait. -/
def start [DecidableEq Account] (s : Session Account bits) (name : String) (account : Account) :
    Outcome bits × Session Account bits :=
  let (outcome, k, tracker) := s.tracker.request s.source account
  (outcome, { s with tracker }.keep name k outcome)

/-- A wait for the lock, polled once and kept under `name`. -/
def startLock [DecidableEq Account] (s : Session Account bits) (name : String) :
    Outcome bits × Session Account bits :=
  let (outcome, k, tracker) := s.tracker.lock
  (outcome, { s with tracker }.keep name k outcome)

/-- Polls the task of a name once; `none` if there is no such task. -/
def poll [DecidableEq Account] (s : Session Account bits) (name : String) :
    Option (Outcome bits) × Session Account bits :=
  match s.tasks.lookup name with
  | none => (none, s)
  | some k =>
    match s.tracker.poll s.source k with
    | (.pending, tracker) => (some .pending, { s with tracker })
    | (outcome, tracker) => (some outcome, ({ s with tracker }.dropTask name).keep name k outcome)

/-- Abandons the task of a name; whether there was one. -/
def abandon (s : Session Account bits) (name : String) : Bool × Session Account bits :=
  match s.tasks.lookup name with
  | none => (false, s)
  | some k => (true, { s with tracker := s.tracker.leave k }.dropTask name)

/-! ### Guards -/

/-- A wait for the lock, polled once and given up if the lock is not free. -/
def lock [DecidableEq Account] (s : Session Account bits) (name : String) :
    Outcome bits × Session Account bits :=
  match s.tracker.lock with
  | (.locked, k, tracker) => (.locked, { s with tracker }.bindGuard name k)
  | (outcome, k, tracker) => (outcome, { s with tracker := tracker.leave k })

/-- Takes the lock if nobody holds it; whether it did. -/
def tryLock (s : Session Account bits) (name : String) : Bool × Session Account bits :=
  match s.tracker.tryLock? with
  | some (k, tracker) => (true, { s with tracker }.bindGuard name k)
  | none => (false, s)

/-- Gives the guard of a name up; whether there was one. -/
def release (s : Session Account bits) (name : String) : Bool × Session Account bits :=
  match s.guards.lookup name with
  | none => (false, s)
  | some k =>
    (true, { s with
      tracker := s.tracker.leave k
      guards := s.guards.filter (fun p => p.1 != name) })

/-- Whether there is a guard of the name. -/
def hasGuard (s : Session Account bits) (name : String) : Bool := (s.guards.lookup name).isSome

/-- A decision under the guard of a name, polled once and abandoned if it has to wait; `none` if
    there is no such guard. -/
def guardedNext [DecidableEq Account] (s : Session Account bits) (name : String)
    (account : Account) : Option (Outcome bits) × Session Account bits :=
  match s.guards.lookup name with
  | none => (none, s)
  | some k =>
    let (outcome, tracker) := s.tracker.call s.source k account
    (some outcome, { s with tracker := tracker.cancelCall k })

/-- The record of a nonce that was just decided, before any time has passed. -/
def assigned (id : String) (account : Account) (nonce : Nonce bits) : Record Account bits :=
  ((Record.new id account .zero).withNonce nonce).withStatus .submitted .zero

/-- A decision under a guard whose nonce is recorded as submitted before anybody else can decide. -/
def assign [DecidableEq Account] (s : Session Account bits) (name id : String)
    (account : Account) : Option (Outcome bits) × Session Account bits :=
  match s.guardedNext name account with
  | (some (.answered (.ok n)), s) =>
    (some (.answered (.ok n)),
      { s with tracker := s.tracker.mapLedger (·.put (assigned id account n)) })
  | r => r

end Session

end NonceAllocation
