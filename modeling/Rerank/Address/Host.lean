/-
Hosts of addresses.

The schemes of the web have hosts that can be looked up: a text in brackets is an IPv6
address; any other text has its percent escapes resolved and is brought to the ASCII form
of a domain, and a domain that ends in a number must be an IPv4 address.  Under any other
scheme a host is left as it is, apart from the escapes of controls and of characters
outside ASCII.
-/
import Rerank.Address.Fault
import Rerank.Address.IPv6
import Rerank.Domain.Ascii

namespace Rerank.Address

/-- A host in its normal form. -/
inductive Host
  /-- A domain, or a name that is known to the scheme only. -/
  | name (text : String)
  /-- An IPv4 address. -/
  | ipv4 (address : IPv4)
  /-- An IPv6 address. -/
  | ipv6 (address : IPv6)
  deriving DecidableEq, Repr

namespace Host

/-- The written form of a host. -/
def text : Host → String
  | .name s => s
  | .ipv4 a => a.text
  | .ipv6 a => a.text

/-- The IPv6 address in a text that begins with a bracket. -/
def bracketed (s : List Char) : Except Fault Host :=
  if s.getLast? = some ']' then
    match IPv6.parse? s.tail.dropLast with
    | some a => .ok (.ipv6 a)
    | none => .error .invalidIPv6
  else .error .invalidIPv6

/-- The host that a text spells under a scheme of the web. -/
def ofDomain (s : List Char) : Except Fault Host :=
  if s.head? = some '[' then bracketed s
  else
    match (Percent.decode? s).bind Domain.toAscii? with
    | none => .error .invalidDomain
    | some [] => .error .emptyHost
    | some domain =>
      if IPv4.endsInNumber domain then
        match IPv4.parse? domain with
        | some a => .ok (.ipv4 a)
        | none => .error .invalidIPv4
      else .ok (.name (String.ofList domain))

/-- The characters that delimit parts of an address and cannot be part of a host. -/
def delimiters : List Char :=
  "\x00\t\n\r #/:<>?@[\\]^|".toList

/-- The host that a text spells under a scheme that is not one of the web. -/
def ofName (s : List Char) : Except Fault Host :=
  if s.head? = some '[' then bracketed s
  else if s.any delimiters.contains then .error .forbiddenCharacter
  else .ok (.name (String.ofList (Percent.encode s)))

end Host

end Rerank.Address
