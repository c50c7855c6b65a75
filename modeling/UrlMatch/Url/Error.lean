/-!
# Why a URL is refused
-/

namespace UrlMatch.Url

/-- The causes for which a text is no URL, or no host. -/
inductive Error
  /-- A host that must not be empty is. -/
  | emptyHost
  /-- A domain name has no form in ASCII letters. -/
  | domainName
  /-- A port is no number below 65536. -/
  | port
  /-- A host that ends in a number is no IPv4 address. -/
  | ipv4Address
  /-- A host in brackets is no IPv6 address. -/
  | ipv6Address
  /-- A host holds a character that no host may hold. -/
  | domainCharacter
  /-- A relative URL has nothing to be relative to. -/
  | relativeWithoutBase
  /-- A relative URL meets a base that has no hierarchy. -/
  | relativeToOpaqueBase
deriving Repr, DecidableEq

/-- The wording of a cause. -/
def Error.message : Error → String
  | emptyHost => "empty host"
  | domainName => "invalid international domain name"
  | port => "invalid port number"
  | ipv4Address => "invalid IPv4 address"
  | ipv6Address => "invalid IPv6 address"
  | domainCharacter => "invalid domain character"
  | relativeWithoutBase => "relative URL without a base"
  | relativeToOpaqueBase => "relative URL with a cannot-be-a-base base"

end UrlMatch.Url
