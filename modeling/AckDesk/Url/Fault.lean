/-!
# Faults of addresses

Why a text is no absolute URL.
-/

namespace AckDesk.Url

/-- Why a text is no absolute URL. -/
inductive Fault where
  | relative
  | emptyHost
  | invalidName
  | invalidHostCharacter
  | invalidIpv4
  | invalidIpv6
  | invalidPort
deriving DecidableEq

def Fault.message : Fault → String
  | relative => "relative URL without a base"
  | emptyHost => "empty host"
  | invalidName => "invalid international domain name"
  | invalidHostCharacter => "invalid domain character"
  | invalidIpv4 => "invalid IPv4 address"
  | invalidIpv6 => "invalid IPv6 address"
  | invalidPort => "invalid port number"

end AckDesk.Url
