/-! # What can be wrong with an address -/

namespace LadderAtlas

inductive UrlError where
  | emptyHost
  | badDomain
  | badPort
  | badIpv4
  | badIpv6
  /-- A character that the host of a general scheme must not have. -/
  | badHostCharacter
  | relativeWithoutBase
  /-- The base has no hierarchy to resolve in. -/
  | baseWithoutHierarchy
  deriving Repr, DecidableEq

def UrlError.message : UrlError → String
  | .emptyHost => "empty host"
  | .badDomain => "invalid international domain name"
  | .badPort => "invalid port number"
  | .badIpv4 => "invalid IPv4 address"
  | .badIpv6 => "invalid IPv6 address"
  | .badHostCharacter => "invalid domain character"
  | .relativeWithoutBase => "relative URL without a base"
  | .baseWithoutHierarchy => "relative URL with a cannot-be-a-base base"

end LadderAtlas
