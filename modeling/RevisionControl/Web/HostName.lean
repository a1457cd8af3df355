import RevisionControl.Text.Utf8
import RevisionControl.Web.Domain
import RevisionControl.Web.Ip
import RevisionControl.Web.Refusal

/-!
# The host of an address

Where a scheme has hosts of the internet, a host is a domain or a numeric address; what ends in a
number must be an IPv4 address. For any other scheme a host is just a text without the characters
that end a host.
-/

namespace RevisionControl.Web.HostName

/-- The characters that no host may hold. -/
def forbiddenInHost : List Char :=
  ['\x00', '\t', '\n', '\r', ' ', '#', '/', ':', '<', '>', '?', '@', '[', '\\', ']', '^', '|']

/-- The address between brackets. -/
def bracketed? : List Char → Option (List Nat)
  | '[' :: rest =>
    if rest.getLast? = some ']' then Ipv6.parse? rest.dropLast else none
  | _ => none

/-- The text of a bracketed host. -/
def parseBracketed (cs : List Char) : Except AddressFault String :=
  match bracketed? cs with
  | some pieces => .ok ("[" ++ Ipv6.text pieces ++ "]")
  | none => .error .invalidIpv6

/-- The text of a host of the internet. -/
def parseInternet (cs : List Char) : Except AddressFault String :=
  if cs.head? = some '[' then parseBracketed cs
  else
    match Text.Utf8.decode? (Percent.decode cs) with
    | .error _ => .error .invalidDomain
    | .ok decoded =>
      match Domain.ascii? decoded.toList with
      | none => .error .invalidDomain
      | some [] => .error .emptyHost
      | some domain =>
        if Ipv4.endsInNumber domain then
          match Ipv4.parse? domain with
          | some address => .ok (Ipv4.text address)
          | none => .error .invalidIpv4
        else .ok (String.ofList domain)

/-- The text of any other host. -/
def parseOpaque (cs : List Char) : Except AddressFault String :=
  if cs.head? = some '[' then parseBracketed cs
  else if cs.any forbiddenInHost.contains then .error .forbiddenCharacter
  else .ok (String.ofList (Percent.encode [] cs))

end RevisionControl.Web.HostName
