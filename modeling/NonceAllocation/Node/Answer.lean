import NonceAllocation.Json.Decode

namespace NonceAllocation

/-!
# What a node answers

A node is asked by JSON-RPC over HTTP, one request in an exchange.

* `Exchange` — what comes of sending a request;
* `NodeError` — an error of the node's own; `NodeFault` — everything that can go wrong, with its
  wording, for which texts that do not decode are described by whoever decodes them;
* `Exchange.result` — the result, decoded.

A text that does not decode as what it should be is taken for the node's error if it is one.
-/

/-- What comes of sending a request. -/
inductive Exchange where
  | answered (status : Nat) (body : String)
  /-- No answer came; the message is that of the connection. -/
  | failed (message : String)
deriving DecidableEq

/-- An error object. -/
structure NodeError where
  code : Int
  message : String
  /-- The text of the data that the node adds. -/
  data : Option String
deriving DecidableEq

/-- Why an exchange has no result. -/
inductive NodeFault where
  | refused (error : NodeError)
  | status (status : Nat) (body : String)
  /-- A text does not decode, and is no error of the node either. -/
  | undecodable (error : DecodeError) (text : String)
  /-- A list of answers came for one request. -/
  | batch
  | unreachable (message : String)
deriving DecidableEq

/-- The wording of a node's error. -/
def NodeError.wording (e : NodeError) : String :=
  "server returned an error response: error code " ++ toString e.code ++ ": " ++ e.message
    ++ (e.data.elim "" fun d => ", data: " ++ d)

/-- The wording of a fault; `describe` words what is wrong with a text. -/
def NodeFault.message (describe : DecodeError → String → String) : NodeFault → String
  | refused error => error.wording
  | status n "" => "HTTP error " ++ toString n ++ " with empty body"
  | status n body => "HTTP error " ++ toString n ++ " with body: " ++ body
  | undecodable error text => describe error text
  | batch => "received batch response from single request"
  | unreachable message => message

/-! ### Error objects -/

namespace NodeError

/-- A whole number of 64 bits, one of them for the sign. -/
def decodeCode : Decoder Int
  | .number n => do
    let n ← checked n.read
    match n with
    | .unsigned m =>
      if m < 2 ^ 63 then .ok m else .error (.invalidValue (.number n) "i64")
    | .negative m => .ok (-m)
    | .double _ _ => .error (.invalidType (.number n) "i64")
  | d => .error (d.mismatch "i64")

/-- The fields of an error object that have been found. -/
structure Fields where
  code : Option Int := none
  message : Option String := none
  data : Option String := none

open Decoder in
/-- The fields of the members of an object. -/
def fields (s : Fields) : Members → Except DecodeError Fields
  | .done ending => (checked ending.check).map fun _ => s
  | .more key value raw rest => do
    let key ← checked key.read
    let s ← match key with
      | "code" => (once key s.code decodeCode value).map fun code => { s with code }
      | "message" => (once key s.message text value).map fun message => { s with message }
      | "data" =>
        (once key s.data (fun d => (checked d.skip).map fun _ => raw) value).map
          fun data => { s with data }
      | _ => ignored s value
    fields s rest

def decode : Decoder NodeError
  | .object members => do
    let s ← fields {} members
    let code ← Decoder.needed "code" s.code
    .ok ⟨code, s.message.getD "", s.data⟩
  | d => .error (d.mismatch "a JSON-RPC 2.0 error object")

/-- The error object that a text holds. -/
def read? (s : String) : Option NodeError := (Decoder.run decode s).toOption

end NodeError

/-! ### Answers -/

/-- What an answer carries: the text of its result, or an error. -/
inductive Payload where
  | result (raw : String)
  | error (e : NodeError)

namespace Payload

/-- The fields of an answer that have been found. -/
structure Fields where
  id : Option Unit := none
  result : Option String := none
  error : Option NodeError := none

/-- The number of a request: not below zero, a text, or none. -/
def decodeId : Decoder Unit
  | .number n => do
    let n ← checked n.read
    match n with
    | .unsigned _ => .ok ()
    | n => .error (.invalidType (.number n) "a string, a number, or null")
  | .string s => (checked s.read).map fun _ => ()
  | .null => .ok ()
  | d => .error (d.mismatch "a string, a number, or null")

open Decoder in
/-- The fields of the members of an answer. -/
def fields (s : Fields) : Members → Except DecodeError Fields
  | .done ending => (checked ending.check).map fun _ => s
  | .more key value raw rest => do
    let key ← checked key.read
    let s ← match key with
      | "id" => (once key s.id decodeId value).map fun id => { s with id }
      | "result" =>
        (once key s.result (fun d => (checked d.skip).map fun _ => raw) value).map
          fun result => { s with result }
      | "error" => (once key s.error NodeError.decode value).map fun error => { s with error }
      | _ => ignored s value
    fields s rest

/-- An answer, which carries a result or an error but not both. -/
def decode : Decoder Payload
  | .object members => do
    let s ← fields {} members
    match s.result, s.error with
    | some raw, none => .ok (result raw)
    | none, some e => .ok (error e)
    | some _, some _ => .error (.refused "an answer has a result or an error")
    | none, none => .error (.missingField "result")
  | d => .error (d.mismatch "a JSON-RPC response object")

/-- One answer, or a list of answers. -/
def decodeAll : Decoder (Payload ⊕ List Payload)
  | .array is => (Decoder.items decode is).map .inr
  | d => (decode d).map .inl

end Payload

namespace Exchange

variable {α : Type}

/-- A text that did not decode, as an error of the node if it is one. -/
def asNodeError (error : DecodeError) (s : String) : NodeFault :=
  match NodeError.read? s with
  | some e => .refused e
  | none => .undecodable error s

/-- The result that an answer's body carries. -/
def bodyResult (decode : Decoder α) (body : String) : Except NodeFault α :=
  match Decoder.run Payload.decodeAll body with
  | .error error => .error (asNodeError error body)
  | .ok (.inr _) => .error .batch
  | .ok (.inl (.error e)) => .error (.refused e)
  | .ok (.inl (.result raw)) => (Decoder.run decode raw).mapError fun error => asNodeError error raw

/-- The result of an exchange. -/
def result (decode : Decoder α) : Exchange → Except NodeFault α
  | failed message => .error (.unreachable message)
  | answered status body =>
    if 200 ≤ status ∧ status < 300 then bodyResult decode body else .error (.status status body)

/-- Whether the body of a successful answer is one that JSON-RPC knows. -/
def isSound : Exchange → Bool
  | failed _ => false
  | answered status body =>
    decide (200 ≤ status ∧ status < 300) && (Decoder.run Payload.decodeAll body).isOk

end Exchange

end NonceAllocation
