/-!
# Faults of addresses
-/

namespace WalletCredentials

/-- Why a text is no address. -/
inductive UrlFault
  /-- The text names no scheme, and there is nothing that it could be relative to. -/
  | relative
  | emptyHost
  | port
  | ipv4
  | ipv6
  /-- The name of the host cannot be one. -/
  | domain
  /-- A host under a scheme that is not one of the web holds a character that it may not. -/
  | hostCharacter
  deriving DecidableEq, Repr

/-- The wording of a fault. -/
def UrlFault.message : UrlFault → String
  | .relative => "relative URL without a base"
  | .emptyHost => "empty host"
  | .port => "invalid port number"
  | .ipv4 => "invalid IPv4 address"
  | .ipv6 => "invalid IPv6 address"
  | .domain => "invalid international domain name"
  | .hostCharacter => "invalid domain character"

end WalletCredentials
