import Seedbed.Url.Domain
import Seedbed.Url.Fault
import Seedbed.Url.Ipv4
import Seedbed.Url.Ipv6
import Seedbed.Url.Percent
import Seedbed.Url.Scheme

/-!
# Hosts

A bracketed host is an IPv6 address under every scheme. Otherwise a special scheme has a domain name
or, if the name ends in a number, an IPv4 address; under any other scheme a host is opaque text.
-/

namespace Seedbed.Url

/-- A host: no address has a host whose name is empty. -/
inductive Host where
  /-- A domain name or opaque text, as it is written in the address. -/
  | name (text : List Char)
  | ipv4 (address : Nat)
  /-- The eight groups of an IPv6 address. -/
  | ipv6 (groups : List Nat)
  deriving DecidableEq, Repr

/-- A host as text, an IPv6 address without its brackets. -/
def Host.text : Host → List Char
  | .name text => text
  | .ipv4 address => ipv4Text address
  | .ipv6 groups => ipv6Text groups

def isForbiddenInHost (c : Char) : Bool :=
  c ∈ ['\x00', '\t', '\n', '\r', ' ', '#', '/', ':', '<', '>', '?', '@', '[', '\\', ']', '^', '|']

/-- What stands between the brackets of a host that starts with one, read as an IPv6 address. -/
def bracketedHost (text : List Char) : Except Fault Host :=
  if text.getLast? = some ']' then
    match ipv6Groups? text.tail.dropLast with
    | some groups => .ok (.ipv6 groups)
    | none => .error .invalidIpv6
  else .error .invalidIpv6

def opaqueHost (text : List Char) : Except Fault Host :=
  if text.head? = some '[' then bracketedHost text
  else if text.any isForbiddenInHost then .error .invalidDomainCharacter
  else .ok (.name (percentEncode isControlEncoded text))

def specialHost (text : List Char) : Except Fault Host :=
  if text.head? = some '[' then bracketedHost text
  else
    match Domain.toAscii? (percentDecode text) with
    | none => .error .invalidDomainName
    | some domain =>
      if domain.isEmpty then .error .emptyHost
      else if endsInNumber domain then
        match ipv4OfDomain? domain with
        | some address => .ok (.ipv4 address)
        | none => .error .invalidIpv4
      else .ok (.name domain)

end Seedbed.Url
