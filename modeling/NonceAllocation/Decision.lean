import NonceAllocation.Ledger

namespace NonceAllocation

/-!
# The next nonce of an account

The node's count and the largest nonce seen confirmed bound the next nonce from below; from there
the contiguous run of nonces held by submitted records is passed over.

* `confirmedFrontier` — one past the largest confirmed nonce, zero when there is none;
* `firstFree` — the first nonce at or after a start that is not among the held ones;
* `pendingRun` — `firstFree` over the nonces of submitted records;
* `nextNonce` — the decision, from the node's answer and the two reads of the ledger.

A record without a nonce and a step past the largest nonce are inconsistencies: they end the
decision, and nothing is guessed.
-/

/-- A state of the local records that another part of the wallet should have prevented. -/
inductive Inconsistency (bits : Nat) where
  | missingNonce (id : String) (status : Status)
  | overflow (after : Nonce bits)
deriving DecidableEq

/-- Why a node did not tell an account's transaction count. -/
inductive SourceError where
  /-- There was no answer: connection, time limit, or an answer that makes no sense. -/
  | transport (message : String)
  /-- The node answered with an error of its own. -/
  | provider (code : Int) (message : String)
deriving DecidableEq

/-- Why there is no next nonce. -/
inductive NonceError (bits : Nat) where
  | network (message : String)
  | provider (code : Int) (message : String)
  | inconsistent (cause : Inconsistency bits)
deriving DecidableEq

variable {Account : Type} {bits : Nat}

/-! ### Wordings -/

def Inconsistency.message : Inconsistency bits → String
  | .missingNonce id status => status.name ++ " transaction " ++ id ++ " has no nonce"
  | .overflow after => "nonce overflow after " ++ after.text

def SourceError.message : SourceError → String
  | .transport message => "transport error: " ++ message
  | .provider code message => "provider error " ++ toString code ++ ": " ++ message

def NonceError.message : NonceError bits → String
  | .network message => "nonce unavailable: network query failed: " ++ message
  | .provider code message =>
    "nonce unavailable: provider error " ++ toString code ++ ": " ++ message
  | .inconsistent cause => "nonce unavailable: " ++ cause.message

/-- Whether the local records, rather than the node, are at fault. -/
def NonceError.isLocal : NonceError bits → Bool
  | .inconsistent _ => true
  | _ => false

/-- A node's failure ends the decision; local records are no substitute for its answer. -/
def SourceError.toNonceError : SourceError → NonceError bits
  | .transport message => .network message
  | .provider code message => .provider code message

/-! ### The two scans -/

/-- The nonce of a record that must have one. -/
def Record.requireNonce (r : Record Account bits) : Except (Inconsistency bits) (Nonce bits) :=
  match r.nonce with
  | some n => .ok n
  | none => .error (.missingNonce r.id r.status)

/-- The nonce after `n`. -/
def successor (n : Nonce bits) : Except (Inconsistency bits) (Nonce bits) :=
  match n.next? with
  | some m => .ok m
  | none => .error (.overflow n)

/-- One past the largest nonce of the records; zero when there are none. -/
def confirmedFrontier (records : List (Record Account bits)) :
    Except (Inconsistency bits) (Nonce bits) := do
  let nonces ← records.mapM Record.requireNonce
  match nonces.max? with
  | none => .ok .zero
  | some largest => successor largest

/-- Passing a held nonce leaves fewer held nonces ahead. -/
theorem length_ahead_lt {held : List (Nonce bits)} {n m : Nonce bits} (hn : n ∈ held)
    (hm : n.next? = some m) :
    (held.filter (fun k => decide (m ≤ k))).length
      < (held.filter (fun k => decide (n ≤ k))).length := by
  have hval : m.val = n.val + 1 := Unsigned.next?_eq_some_iff.1 hm
  have hsub : held.filter (fun k => decide (m ≤ k))
      = (held.filter (fun k => decide (n ≤ k))).filter (fun k => decide (m ≤ k)) := by
    rw [List.filter_filter]
    refine List.filter_congr fun k _ => ?_
    by_cases h : m ≤ k
    · have : n ≤ k := by rw [Unsigned.le_def] at h ⊢; omega
      simp [h, this]
    · simp [h]
  rw [hsub, List.length_filter_lt_length_iff_exists]
  refine ⟨n, List.mem_filter.2 ⟨hn, by simp [Unsigned.le_def]⟩, ?_⟩
  simp only [decide_eq_true_eq, Unsigned.le_def]
  omega

/-- The first nonce from `n` on that is not held. -/
def firstFree (held : List (Nonce bits)) (n : Nonce bits) :
    Except (Inconsistency bits) (Nonce bits) :=
  if _hn : n ∈ held then
    match _hm : n.next? with
    | some m => firstFree held m
    | none => .error (.overflow n)
  else .ok n
termination_by (held.filter (fun k => decide (n ≤ k))).length
decreasing_by exact length_ahead_lt ‹_› ‹_›

/-- The first nonce from `start` on that none of the records holds.  Every record must have a
    nonce, wherever it lies. -/
def pendingRun (records : List (Record Account bits)) (start : Nonce bits) :
    Except (Inconsistency bits) (Nonce bits) := do
  let held ← records.mapM Record.requireNonce
  firstFree held start

/-! ### The decision -/

/-- The next nonce, from the node's answer, the account's confirmed records as read first, and its
    submitted records as read after them. -/
def nextNonce (answer : Except SourceError (Nonce bits))
    (confirmed submitted : List (Record Account bits)) :
    Except (NonceError bits) (Nonce bits) := do
  let count ← answer.mapError SourceError.toNonceError
  let frontier ← (confirmedFrontier confirmed).mapError NonceError.inconsistent
  (pendingRun submitted (max count frontier)).mapError NonceError.inconsistent

/-- The next nonce of `account` when both reads see the same ledger. -/
def Ledger.nextNonce [DecidableEq Account] (l : Ledger Account bits) (account : Account)
    (answer : Except SourceError (Nonce bits)) : Except (NonceError bits) (Nonce bits) :=
  NonceAllocation.nextNonce answer (l.query account .confirmed) (l.query account .submitted)

end NonceAllocation
