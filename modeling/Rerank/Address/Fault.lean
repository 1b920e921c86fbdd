/-
Why an address cannot be read.
-/

namespace Rerank.Address

/-- The faults of an address. -/
inductive Fault
  /-- It does not begin with a scheme, so it could only be read relative to another one. -/
  | noScheme
  /-- It must have a host and has an empty one. -/
  | emptyHost
  /-- Its host is not a valid domain. -/
  | invalidDomain
  /-- Its port is not a number below 65536. -/
  | invalidPort
  /-- Its host ends in a number and is not an IPv4 address. -/
  | invalidIPv4
  /-- Its host is in brackets and not an IPv6 address. -/
  | invalidIPv6
  /-- Its host holds a character that delimits other parts of an address. -/
  | forbiddenCharacter
  deriving DecidableEq, Repr

/-- The fault in words. -/
def Fault.message : Fault → String
  | .noScheme => "relative URL without a base"
  | .emptyHost => "empty host"
  | .invalidDomain => "invalid international domain name"
  | .invalidPort => "invalid port number"
  | .invalidIPv4 => "invalid IPv4 address"
  | .invalidIPv6 => "invalid IPv6 address"
  | .forbiddenCharacter => "invalid domain character"

end Rerank.Address
