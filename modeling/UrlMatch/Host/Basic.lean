import UrlMatch.Host.Domain
import UrlMatch.Host.Ipv4
import UrlMatch.Host.Ipv6
import UrlMatch.Percent
import UrlMatch.Url.Error

/-!
# Hosts

The host of a URL is a domain name or an address. Where the scheme has no conventions for hosts,
it may also be any text without certain characters.
-/

namespace UrlMatch

/-- The host of a URL. -/
inductive Host
  | domain (name : Text)
  | ipv4 (address : Nat)
  | ipv6 (pieces : List Nat)
deriving Repr, DecidableEq

namespace Host

/-- The text of a host. -/
def render : Host → Text
  | domain name => name
  | ipv4 address => Ipv4.render address
  | ipv6 pieces => '[' :: Ipv6.render pieces ++ [']']

/-- Reads an address in brackets, behind the opening one. -/
def parseBracketed (t : Text) : Except Url.Error Host :=
  match t.getLast?, Ipv6.parse? t.dropLast with
  | some ']', some pieces => .ok (ipv6 pieces)
  | _, _ => .error .ipv6Address

/-- Reads the host of a scheme that knows domain names. -/
def parse (t : Text) : Except Url.Error Host :=
  match t with
  | '[' :: rest => parseBracketed rest
  | t =>
    match (Text.ofUtf8? (Percent.decode t)).bind Domain.toAscii? with
    | none => .error .domainName
    | some name =>
      if name = [] then .error .emptyHost
      else if Ipv4.endsInNumber name then
        match Ipv4.parse? name with
        | some address => .ok (ipv4 address)
        | none => .error .ipv4Address
      else .ok (domain name)

/-- A character that separates the parts of a URL, or NUL or a blank. -/
def isForbidden (c : Char) : Bool :=
  c ∈ ['\x00', '\t', '\n', '\r', ' ', '#', '/', ':', '<', '>', '?', '@', '[', '\\', ']', '^', '|']

/-- Reads the host of any other scheme. -/
def parseOpaque (t : Text) : Except Url.Error Host :=
  match t with
  | '[' :: rest => parseBracketed rest
  | t =>
    if t.any isForbidden then .error .domainCharacter
    else .ok (domain (Percent.encode Percent.controls t))

end Host

end UrlMatch
