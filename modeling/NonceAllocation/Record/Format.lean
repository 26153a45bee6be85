import NonceAllocation.Evm.Quantity
import NonceAllocation.Family
import NonceAllocation.Record

namespace NonceAllocation

/-!
# Records as JSON

A record is an object of its fields; those that are absent are left out.  How accounts and nonces
are written depends on the chain family.

* `Timestamp.json`, `Timestamp.decode` — seconds, as a text of decimal digits;
* `Status.json`, `Status.decode` — a stage, by its name;
* `EvmAddress.json`, `EvmAddress.decode`, `FilAddress.json`, `FilAddress.decode` — accounts;
* `RecordFormat` — what a family adds; `evmRecords`, `filecoinRecords`;
* `Record.json`, `Record.decode` — the record.
-/

/-! ### Times and stages -/

namespace Timestamp

def json (t : Timestamp) : Json := .string t.text

def decode : Decoder Timestamp :=
  .parsed fun s => (Unsigned.read 64 s).mapError fun _ => "timestamp must be a non-negative integer"

end Timestamp

namespace Status

def json (st : Status) : Json := .string st.name

def decode : Decoder Status := .enum all name

end Status

/-! ### Accounts -/

namespace EvmAddress

def json (a : EvmAddress) : Json := .string a.text

/-- The description of an address. -/
def expected : String :=
  "20 bytes, represented as a hex string of length 40, an array of u8, or raw bytes"

/-- The description of an address in a list. -/
def expectedBytes : String := "exactly 20 bytes"

/-- The items from `index` on up to the number of bytes of an address; `left` are due. -/
def takeBytes (index : Nat) : (left : Nat) → Items → Except DecodeError (List UInt8 × Items)
  | 0, is => .ok ([], is)
  | left + 1, is => do
    let (b, is) ← is.required index expectedBytes (Decoder.unsigned 8)
    let (bs, is) ← takeBytes (index + 1) left is
    .ok (UInt8.ofNat b.val :: bs, is)

/-- The end of the bytes.  A further byte is one too many; another value without parts is passed
    over once, and so is a comma. -/
def closeBytes : Items → Except DecodeError Unit
  | .done (.comma .malformed) => .ok ()
  | .done (.comma .truncated) => .error (.fault .truncated)
  | .more value rest =>
    match Decoder.unsigned 8 value, value with
    | .ok _, _ => .error (.invalidLength 21 expectedBytes)
    | .error _, .number n => do
      checked n.skip
      rest.close
    | .error (.fault f), _ => .error (.fault f)
    | .error _, .array _ => .error (.fault .malformed)
    | .error _, .object _ => .error (.fault .malformed)
    | .error _, _ => rest.close
  | is => is.close

/-- Twenty bytes as an address. -/
def ofBytes (bs : List UInt8) : Except DecodeError EvmAddress :=
  if h : bs.length = 20 then .ok ⟨bs, h⟩ else .error (.invalidLength bs.length expectedBytes)

/-- Forty digits, or a list of twenty bytes. -/
def decode : Decoder EvmAddress
  | .string s => do
    let s ← checked s.read
    (readLoose s).mapError fun fault => .refused fault.message
  | .array is => do
    let (bs, is) ← takeBytes 0 20 is
    closeBytes is
    ofBytes bs
  | d => .error (d.mismatch expected)

end EvmAddress

namespace FilAddress

def json (a : FilAddress) : Json := .string a.text

def decode : Decoder FilAddress := .parsed fun s => (read s).mapError FilAddressFault.message

end FilAddress

/-! ### Records -/

/-- How a family's accounts and nonces are written and read. -/
structure RecordFormat (Account : Type) (bits : Nat) where
  account : Account → Json
  decodeAccount : Decoder Account
  nonce : Nonce bits → Json
  decodeNonce : Decoder (Nonce bits)

/-- EVM records: nonces are quantities. -/
def evmRecords : RecordFormat EvmAddress 256 where
  account := EvmAddress.json
  decodeAccount := EvmAddress.decode
  nonce := Quantity.json
  decodeNonce := Quantity.decode 256

/-- Filecoin records: nonces are numbers, accounts are of either network. -/
def filecoinRecords : RecordFormat FilAddress 64 where
  account := FilAddress.json
  decodeAccount := FilAddress.decode
  nonce n := .number n.val
  decodeNonce := .unsigned 64

namespace Record

variable {Account : Type} {bits : Nat}

def json (format : RecordFormat Account bits) (r : Record Account bits) : Json :=
  .ofMembers [
    some ("id", .string r.id),
    some ("from", format.account r.account),
    some ("status", r.status.json),
    r.nonce.map fun n => ("nonce", format.nonce n),
    some ("created_time", Timestamp.json r.created),
    r.submitted.map fun t => ("submitted_time", Timestamp.json t),
    r.confirmed.map fun t => ("confirmed_time", Timestamp.json t),
    r.txHash.map fun h => ("tx_hash", .string h)]

/-- The fields of a record that have been found. -/
structure Fields (Account : Type) (bits : Nat) where
  id : Option String := none
  account : Option Account := none
  status : Option Status := none
  nonce : Option (Option (Nonce bits)) := none
  created : Option Timestamp := none
  submitted : Option (Option Timestamp) := none
  confirmed : Option (Option Timestamp) := none
  txHash : Option (Option String) := none

namespace Fields

open Decoder

/-- Takes a member of the object. -/
def step (format : RecordFormat Account bits) (s : Fields Account bits) (key : String)
    (d : Document) : Except DecodeError (Fields Account bits) :=
  match key with
  | "id" => (once key s.id text d).map fun id => { s with id }
  | "from" => (once key s.account format.decodeAccount d).map fun account => { s with account }
  | "status" => (once key s.status Status.decode d).map fun status => { s with status }
  | "nonce" => (once key s.nonce (option format.decodeNonce) d).map fun nonce => { s with nonce }
  | "created_time" => (once key s.created Timestamp.decode d).map fun created => { s with created }
  | "submitted_time" =>
    (once key s.submitted (option Timestamp.decode) d).map fun submitted => { s with submitted }
  | "confirmed_time" =>
    (once key s.confirmed (option Timestamp.decode) d).map fun confirmed => { s with confirmed }
  | "tx_hash" => (once key s.txHash (option text) d).map fun txHash => { s with txHash }
  | _ => ignored s d

/-- The record, if no field that it needs is missing. -/
def record (s : Fields Account bits) : Except DecodeError (Record Account bits) := do
  let id ← needed "id" s.id
  let account ← needed "from" s.account
  let status ← needed "status" s.status
  let created ← needed "created_time" s.created
  .ok { id, account, status, created,
        nonce := s.nonce.join
        submitted := s.submitted.join
        confirmed := s.confirmed.join
        txHash := s.txHash.join }

end Fields

open Decoder in
/-- A record, as an object or as a list of its fields. -/
def decode (format : RecordFormat Account bits) : Decoder (Record Account bits)
  | .object members => do
    let s ← members.collect (Fields.step format) {}
    s.record
  | .array is => do
    let whole := described "TransactionRecord" 8
    let (id, is) ← is.required 0 whole text
    let (account, is) ← is.required 1 whole format.decodeAccount
    let (status, is) ← is.required 2 whole Status.decode
    let (nonce, is) ← is.optional (option format.decodeNonce)
    let (created, is) ← is.required 4 whole Timestamp.decode
    let (submitted, is) ← is.optional (option Timestamp.decode)
    let (confirmed, is) ← is.optional (option Timestamp.decode)
    let (txHash, is) ← is.optional (option text)
    is.close
    .ok { id, account, status, created,
          nonce := nonce.join
          submitted := submitted.join
          confirmed := confirmed.join
          txHash := txHash.join }
  | d => .error (d.mismatch "struct TransactionRecord")

end Record

end NonceAllocation
