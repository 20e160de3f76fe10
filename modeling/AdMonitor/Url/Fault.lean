/-!
# Faults of a URL
-/

namespace AdMonitor.Url

inductive Fault where
  | noScheme
  | emptyHost
  | port
  | ipv4
  | ipv6
  | domainName
  | hostCharacter
  deriving Repr, DecidableEq

def Fault.message : Fault → String
  | .noScheme => "relative URL without a base"
  | .emptyHost => "empty host"
  | .port => "invalid port number"
  | .ipv4 => "invalid IPv4 address"
  | .ipv6 => "invalid IPv6 address"
  | .domainName => "invalid international domain name"
  | .hostCharacter => "invalid domain character"

end AdMonitor.Url
