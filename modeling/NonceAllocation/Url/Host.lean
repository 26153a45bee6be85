import NonceAllocation.Url.Percent
import NonceAllocation.Url.IpAddress
import NonceAllocation.Url.Domain

namespace NonceAllocation

/-!
# Hosts

* `Host` — where a URL points to;
* `Host.readSpecial`, `Host.readOpaque` — the host of a URL whose scheme is special, and of another;
* `Host.text` — the normal form.
-/

/-- Why a text is no URL. -/
inductive UrlFault where
  | relative
  | emptyHost
  | badPort
  | badIpv4
  | badIpv6
  | badName
  | badCharacter
deriving DecidableEq

/-- The wording of each cause. -/
def UrlFault.message : UrlFault → String
  | .relative => "relative URL without a base"
  | .emptyHost => "empty host"
  | .badPort => "invalid port number"
  | .badIpv4 => "invalid IPv4 address"
  | .badIpv6 => "invalid IPv6 address"
  | .badName => "invalid international domain name"
  | .badCharacter => "invalid domain character"

/-- A host. -/
inductive Host where
  /-- A name, possibly empty. -/
  | name (s : String)
  | ipv4 (n : Nat)
  | ipv6 (pieces : List Nat)
deriving DecidableEq

namespace Host

def text : Host → String
  | name s => s
  | ipv4 n => Ipv4.text n
  | ipv6 pieces => "[" ++ Ipv6.text pieces ++ "]"

def isEmpty (h : Host) : Bool := h.text.isEmpty

/-- The address between brackets, of a text that begins with one. -/
def readBracketed (cs : List Char) : Except UrlFault Host :=
  if cs.getLast? = some ']' then ((Ipv6.read? cs.dropLast).map ipv6).elim (.error .badIpv6) .ok
  else .error .badIpv6

/-- The host of a URL whose scheme is special: an address, or a domain name. -/
def readSpecial : List Char → Except UrlFault Host
  | '[' :: cs => readBracketed cs
  | cs =>
    match Domain.ascii? (Percent.decode cs) with
    | none => .error .badName
    | some [] => .error .emptyHost
    | some domain =>
      if Ipv4.endsInNumber domain then ((Ipv4.read? domain).map ipv4).elim (.error .badIpv4) .ok
      else .ok (name (String.ofList domain))

/-- Whether a character must not stand in a host. -/
def isForbidden (c : Char) : Bool := "\x00\t\n\r #/:<>?@[\\]^|".contains c

/-- The host of a URL whose scheme is not special: an address, or any text. -/
def readOpaque : List Char → Except UrlFault Host
  | '[' :: cs => readBracketed cs
  | cs =>
    if cs.any isForbidden then .error .badCharacter
    else .ok (name (String.ofList (Percent.encode Percent.nowhere cs)))

end Host

end NonceAllocation
