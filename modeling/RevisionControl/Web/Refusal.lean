/-!
# Requests that cannot be made

A request needs an address with a scheme it can be sent by and a host it can be sent to. An
address that cannot be read at all has one of a few faults, each with a name and a wording.
-/

namespace RevisionControl.Web

/-- Why an address cannot be read. -/
inductive AddressFault where
  /-- It has no scheme. -/
  | noScheme
  /-- It has no host. -/
  | emptyHost
  /-- Its host is a bracketed address that is none. -/
  | invalidIpv6
  /-- Its host ends in a number but is no IPv4 address. -/
  | invalidIpv4
  /-- Its service is no number up to 65535. -/
  | invalidService
  /-- Its host cannot be a name of the domain name system. -/
  | invalidDomain
  /-- Its host, of which only the spelling matters, holds a character that no host may hold. -/
  | forbiddenCharacter
deriving DecidableEq, Repr

/-- The name and the wording of a fault. -/
def AddressFault.message : AddressFault → String
  | .noScheme => "RelativeUrlWithoutBase: relative URL without a base"
  | .emptyHost => "EmptyHost: empty host"
  | .invalidIpv6 => "InvalidIpv6Address: invalid IPv6 address"
  | .invalidIpv4 => "InvalidIpv4Address: invalid IPv4 address"
  | .invalidService => "InvalidPort: invalid port number"
  | .invalidDomain => "IdnaError: invalid international domain name"
  | .forbiddenCharacter => "InvalidDomainCharacter: invalid domain character"

/-- Why a request got no answer. -/
inductive Refusal where
  /-- The network failed. -/
  | network (text : String)
  /-- The address cannot be read. -/
  | badAddress (fault : AddressFault)
  /-- No request can be sent by the scheme of the address, which is given in full. -/
  | unknownScheme (address scheme : String)
deriving DecidableEq, Repr

/-- The wording of a refusal. -/
def Refusal.message : Refusal → String
  | .network text => "Network Error: " ++ text
  | .badAddress fault => "Bad URL: failed to parse URL: " ++ fault.message
  | .unknownScheme address scheme =>
    address ++ ": Unknown Scheme: unknown scheme '" ++ scheme ++ "'"

end RevisionControl.Web
