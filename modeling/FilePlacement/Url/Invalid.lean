/-!
# Why a text is not a URL
-/

namespace FilePlacement.Url

inductive Invalid where
  | emptyHost
  | port
  | ipv4
  | ipv6
  | domain
  | domainCharacter
  /-- There is no scheme, and nothing that the text could be relative to. -/
  | relative
deriving DecidableEq, Repr

def Invalid.message : Invalid → String
  | .emptyHost => "empty host"
  | .port => "invalid port number"
  | .ipv4 => "invalid IPv4 address"
  | .ipv6 => "invalid IPv6 address"
  | .domain => "invalid international domain name"
  | .domainCharacter => "invalid domain character"
  | .relative => "relative URL without a base"

end FilePlacement.Url
