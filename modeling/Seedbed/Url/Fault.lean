/-!
# Why a text is no address

The causes for which an address is refused. Each has one wording.
-/

namespace Seedbed.Url

inductive Fault where
  | noScheme
  | emptyHost
  | invalidDomainName
  /-- A host of another scheme holds a forbidden character. -/
  | invalidDomainCharacter
  | invalidIpv4
  | invalidIpv6
  | invalidPort
  deriving DecidableEq, Repr

def Fault.message : Fault → String
  | .noScheme => "relative URL without a base"
  | .emptyHost => "empty host"
  | .invalidDomainName => "invalid international domain name"
  | .invalidDomainCharacter => "invalid domain character"
  | .invalidIpv4 => "invalid IPv4 address"
  | .invalidIpv6 => "invalid IPv6 address"
  | .invalidPort => "invalid port number"

end Seedbed.Url
