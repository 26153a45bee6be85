import NonceAllocation.Environment
import NonceAllocation.Filecoin.Address
import NonceAllocation.Json.Value
import NonceAllocation.Text.Integer
import NonceAllocation.Url

namespace NonceAllocation

/-!
# Settings: values that are configured as texts

* `Setting` — how a kind of value is read from a text, and how it is written as JSON;
* `Setting.text`, `Setting.natural`, `Setting.integer`, `Setting.boolean`, `Setting.url`,
  `Setting.chainId`, `Setting.filAddress` — the kinds;
* `Setting.decode` — a setting that may come from the environment.
-/

structure Setting (α : Type) where
  read : String → Except String α
  json : α → Json

namespace Setting

def text : Setting String := ⟨.ok, .string⟩

/-- Numbers without a sign, of a width. -/
def natural (bits : Nat) : Setting (Unsigned bits) where
  read s := (Unsigned.read bits s).mapError IntegerFault.message
  json n := .number n.val

/-- Numbers of 64 bits, one of them for the sign. -/
def integer : Setting Int where
  read s := (readSigned 63 s).mapError IntegerFault.message
  json n := .number n

def readBoolean (s : String) : Except String Bool :=
  if s = "true" then .ok true
  else if s = "false" then .ok false
  else .error ("provided string was not " ++ ticked "true" ++ " or " ++ ticked "false")

def boolean : Setting Bool := ⟨readBoolean, .bool⟩

def url : Setting Url where
  read s := (Url.read s).mapError UrlFault.message
  json u := .string u.text

def chainId : Setting ChainId where
  read s := (ChainId.read s).mapError ChainIdFault.message
  json c := .string c.text

def filAddress : Setting FilAddress where
  read s := (FilAddress.read s).mapError FilAddressFault.message
  json a := .string a.text

/-- Decodes a setting, resolved in the environment. -/
def decode {α : Type} (setting : Setting α) (env : Environment) : Decoder α :=
  env.decode setting.read

end Setting

end NonceAllocation
