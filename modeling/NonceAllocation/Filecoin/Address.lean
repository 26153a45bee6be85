import NonceAllocation.Chain.Reference
import NonceAllocation.Text.Integer
import NonceAllocation.Text.Split

namespace NonceAllocation

/-!
# Filecoin addresses

An address is written as the letter of its network, a digit for its protocol, and a payload whose
form the protocol fixes.  Two addresses are the same account only if their texts are the same; the
checksum inside a payload is not looked at.

* `FilProtocol.accepts` — the payloads of each protocol, judged by their bytes;
* `FilAddress.read`, `FilAddress.text` — from text and back;
* `FilAddress.networkShown`, `FilAddress.protocolShown?` — what the text of an address shows of it.
-/

/-- How an address names its account. -/
inductive FilProtocol where
  | id
  | secp256k1
  | actor
  | bls
  | delegated
deriving DecidableEq

namespace FilProtocol

def number : FilProtocol → Nat
  | id => 0
  | secp256k1 => 1
  | actor => 2
  | bls => 3
  | delegated => 4

def digit : FilProtocol → Char
  | id => '0'
  | secp256k1 => '1'
  | actor => '2'
  | bls => '3'
  | delegated => '4'

def ofDigit? (c : Char) : Option FilProtocol :=
  if c = '0' then some id
  else if c = '1' then some secp256k1
  else if c = '2' then some actor
  else if c = '3' then some bls
  else if c = '4' then some delegated
  else none

@[simp] theorem ofDigit?_digit (p : FilProtocol) : ofDigit? p.digit = some p := by
  cases p <;> rfl

/-- The bytes of the digits 0 to 9. -/
def isDigitByte (b : UInt8) : Bool := decide ('0'.toUInt8 ≤ b ∧ b ≤ '9'.toUInt8)

/-- The bytes of the alphabet of payloads that are not numbers: a to z and 2 to 7. -/
def isBase32Byte (b : UInt8) : Bool :=
  decide ('a'.toUInt8 ≤ b ∧ b ≤ 'z'.toUInt8 ∨ '2'.toUInt8 ≤ b ∧ b ≤ '7'.toUInt8)

/-- Whether a text is not empty and all its bytes are of a kind. -/
def consistsOf (kind : UInt8 → Bool) (cs : List Char) : Bool :=
  !cs.isEmpty && (cs.flatMap String.utf8EncodeChar).all kind

/-- The bytes of a payload that holds a hash of 20 bytes and a checksum. -/
def hashLength : Nat := 39

/-- The bytes of a payload that holds a key of 48 bytes and a checksum. -/
def keyLength : Nat := 84

/-- Whether the payload has the form of the protocol: a number of 64 bits; a hash; a key; or the
    number of a namespace, an `f`, and an address inside the namespace. -/
def accepts (p : FilProtocol) (payload : List Char) : Bool :=
  match p with
  | id => consistsOf isDigitByte payload && (Unsigned.read 64 (String.ofList payload)).isOk
  | secp256k1 | actor =>
    (payload.flatMap String.utf8EncodeChar).length == hashLength && consistsOf isBase32Byte payload
  | bls =>
    (payload.flatMap String.utf8EncodeChar).length == keyLength && consistsOf isBase32Byte payload
  | delegated =>
    match splitFirst 'f' payload with
    | some (space, sub) => consistsOf isDigitByte space && consistsOf isBase32Byte sub
    | none => false

end FilProtocol

/-- An address in its parts. -/
@[ext] structure FilAddress where
  network : FilNetwork
  protocol : FilProtocol
  payload : String
  accepts_payload : protocol.accepts payload.toList = true
deriving DecidableEq

/-- Why a text is no address. -/
inductive FilAddressFault where
  | network
  | protocol
  | payload (protocol : FilProtocol)
deriving DecidableEq

def FilAddressFault.message : FilAddressFault → String
  | .network => "address must start with f or t"
  | .protocol => "unknown address protocol"
  | .payload p => "malformed payload for protocol " ++ toString p.number ++ " address"

namespace FilAddress

def text (a : FilAddress) : String :=
  String.ofList (a.network.letter :: a.protocol.digit :: a.payload.toList)

/-- The payload behind a network letter and a protocol digit. -/
def ofParts (network : FilNetwork) (protocol : FilProtocol) (payload : List Char) :
    Except FilAddressFault FilAddress :=
  if h : protocol.accepts payload = true then
    .ok ⟨network, protocol, String.ofList payload, by rw [String.toList_ofList]; exact h⟩
  else .error (.payload protocol)

/-- Reads an address of either network: letter, then digit, then payload. -/
def read (s : String) : Except FilAddressFault FilAddress :=
  match s.toList with
  | [] => .error .network
  | c :: cs =>
    match FilNetwork.ofLetter? c with
    | none => .error .network
    | some network =>
      match cs with
      | [] => .error .protocol
      | d :: payload =>
        match FilProtocol.ofDigit? d with
        | none => .error .protocol
        | some protocol => ofParts network protocol payload

/-! ### What a text shows -/

/-- The network that a text shows by its first letter: the test network by a `t`, the main one by
    any other. -/
def networkShown (s : String) : FilNetwork :=
  if s.toList.head? = some 't' then .testnet else .mainnet

/-- The number of the protocol that a text shows by its second byte, counted from the byte of `0`;
    there is none if the byte is missing or comes before that one. -/
def protocolShown? (s : String) : Option UInt8 :=
  (s.toList.flatMap String.utf8EncodeChar)[1]?.bind fun b =>
    if b < '0'.toUInt8 then none else some (b - '0'.toUInt8)

end FilAddress

end NonceAllocation
