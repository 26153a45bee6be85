import NonceAllocation.Json.Decode
import NonceAllocation.Json.Value
import NonceAllocation.Text.Quoted
import NonceAllocation.Url

namespace NonceAllocation

/-!
# Endpoints

* `Endpoint` — where a node answers, and how many requests a second it is sent;
* `Endpoint.json`, `Endpoint.decode` — as JSON.
-/

namespace Url

/-- A URL from its text; an error shows the text. -/
def decode : Decoder Url := fun d => do
  let s ← Decoder.textAs "a string representing an URL" d
  (read s).mapError fun fault => .refused (fault.message ++ ": " ++ quoted s)

end Url

/-- A node's address. -/
structure Endpoint where
  url : Url
  /-- Requests a second that it allows. -/
  rateLimit : Option (Unsigned 32)
deriving DecidableEq

namespace Endpoint

def json (e : Endpoint) : Json :=
  .ofMembers [
    some ("http", .string e.url.text),
    e.rateLimit.map fun n => ("rate_limit", .number n.val)]

/-- The fields of an endpoint that have been found. -/
structure Fields where
  url : Option Url := none
  rateLimit : Option (Option (Unsigned 32)) := none

open Decoder in
/-- Takes a member of the object. -/
def Fields.step (s : Fields) (key : String) (d : Document) : Except DecodeError Fields :=
  match key with
  | "http" => (once key s.url Url.decode d).map fun url => { s with url }
  | "rate_limit" =>
    (once key s.rateLimit (option (unsigned 32)) d).map fun rateLimit => { s with rateLimit }
  | _ => ignored s d

open Decoder in
/-- An endpoint, as an object or as a list of its fields. -/
def decode : Decoder Endpoint
  | .object members => do
    let s ← members.collect Fields.step {}
    let url ← needed "http" s.url
    .ok ⟨url, s.rateLimit.join⟩
  | .array is => do
    let (url, is) ← is.required 0 (described "RpcConfig" 2) Url.decode
    let (rateLimit, is) ← is.optional (option (unsigned 32))
    is.close
    .ok ⟨url, rateLimit.join⟩
  | d => .error (d.mismatch "struct RpcConfig")

end Endpoint

end NonceAllocation
