import NonceAllocation.Unsigned
import NonceAllocation.Text.Hex
import NonceAllocation.Text.Integer

namespace NonceAllocation

/-!
# Transaction records

A record is what the wallet knows of one transaction.  Its nonce is a provisional claim once it is
submitted and a fact of the chain once it is confirmed.

* `Status` — the stages of a transaction's life, with their names;
* `Record` — the record itself, over the account type and the nonce width of a chain family;
* `Record.new`, `Record.withId`, `Record.withNonce`, `Record.withStatus`, `Record.withTxHash` —
  building a record step by step; entering `submitted` or `confirmed` for the first time stamps
  the time.
-/

/-- A transaction count of an account, of a fixed width. -/
abbrev Nonce (bits : Nat) := Unsigned bits

/-- Seconds since 1970. -/
abbrev Timestamp := Unsigned 64

/-- The stage a transaction is in. -/
inductive Status where
  | unapproved
  | submitted
  | confirmed
  | error
  | dropped
deriving DecidableEq

namespace Status

/-- The stage's name in texts and in JSON. -/
def name : Status → String
  | unapproved => "unapproved"
  | submitted => "submitted"
  | confirmed => "confirmed"
  | error => "error"
  | dropped => "dropped"

/-- All stages, in the order of a transaction's life. -/
def all : List Status := [unapproved, submitted, confirmed, error, dropped]

/-- The stage of a name. -/
def ofName? (s : String) : Option Status := all.find? (fun st => st.name == s)

theorem mem_all (st : Status) : st ∈ all := by cases st <;> decide

end Status

/-- A transaction as the wallet records it. -/
structure Record (Account : Type) (bits : Nat) where
  id : String
  /-- The account the transaction is sent from. -/
  account : Account
  status : Status
  /-- Absent only until a nonce has been assigned. -/
  nonce : Option (Nonce bits)
  created : Timestamp
  submitted : Option Timestamp
  confirmed : Option Timestamp
  txHash : Option String
deriving DecidableEq

namespace Record

variable {Account : Type} {bits : Nat}

/-- The identifier made of sixteen random bytes: their 32 lower-case hexadecimal digits. -/
def idOfBytes (bytes : List UInt8) : String := String.ofList (Hex.encode bytes)

/-- A fresh record: unapproved, without a nonce, created now. -/
def new (id : String) (account : Account) (now : Timestamp) : Record Account bits where
  id
  account
  status := .unapproved
  nonce := none
  created := now
  submitted := none
  confirmed := none
  txHash := none

def withId (r : Record Account bits) (id : String) : Record Account bits := { r with id }

def withNonce (r : Record Account bits) (nonce : Nonce bits) : Record Account bits :=
  { r with nonce := some nonce }

/-- Sets the status.  The first move to `submitted` or to `confirmed` stamps its time. -/
def withStatus (r : Record Account bits) (status : Status) (now : Timestamp) :
    Record Account bits :=
  match status with
  | .submitted => { r with status, submitted := some (r.submitted.getD now) }
  | .confirmed => { r with status, confirmed := some (r.confirmed.getD now) }
  | _ => { r with status }

def withTxHash (r : Record Account bits) (txHash : String) : Record Account bits :=
  { r with txHash := some txHash }

end Record

end NonceAllocation
