import UrlMatch.Component.Basic
import UrlMatch.Component.EncodingError
import UrlMatch.Host.Basic
import UrlMatch.Url.Parser

/-!
# Canonical texts of components

For each component there is a function that brings a text into the form that the component has in
a URL, or says why it has none. The empty text always stays as it is.

A host name of ASCII characters is only put into lower case, so that a fragment such as
`.example.com` is kept; the part of an IPv6 address between its brackets has a function of its
own, as its characters are not those of a domain name.
-/

namespace UrlMatch.Encoding

/-- A character of a scheme. -/
def isSchemePart (c : Char) : Bool := c.isAlphanum || c == '+' || c == '-' || c == '.'

/-- A scheme in lower case. -/
def protocol (t : Text) : Except EncodingError Text :=
  if t.all isSchemePart then .ok (Text.asciiLower t) else .error (.invalidProtocol t)

/-- A user name, percent-encoded. -/
def username (t : Text) : Except EncodingError Text :=
  .ok (Percent.encode Percent.userinfo t)

/-- A password, percent-encoded. -/
def password (t : Text) : Except EncodingError Text :=
  .ok (Percent.encode Percent.userinfo t)

/-- A character that separates the parts of a URL, or a blank. -/
def isForbiddenInHost (c : Char) : Bool :=
  c ∈ ['\t', '\n', '\r', ' ', '#', '%', '/', ':', '<', '>', '?', '@', '[', '\\', ']', '^', '|']

/-- A domain name or an IPv4 address. -/
def hostname (t : Text) : Except EncodingError Text :=
  match t.find? isForbiddenInHost with
  | some c => .error (.forbiddenHostCharacter t c)
  | none =>
    if Text.isAscii t then .ok (Text.asciiLower t)
    else match Host.parse t with
      | .ok h => .ok h.render
      | .error cause => .error (.invalidHostname t cause)

/-- A character of an IPv6 address in brackets. -/
def isIpv6Part (c : Char) : Bool := (hexValue? c).isSome || c == '[' || c == ']' || c == ':'

/-- An IPv6 address in lower case. -/
def ipv6Hostname (t : Text) : Except EncodingError Text :=
  match t.find? (!isIpv6Part ·) with
  | some c => .error (.invalidIpv6Hostname t c)
  | none => .ok (Text.asciiLower t)

/-- How far a text has got with its pair of brackets. -/
inductive Brackets
  | none
  | opened
  | closed
deriving Repr, DecidableEq

/-- Goes on by one character, unless a bracket is out of place. -/
def Brackets.next? : Brackets → Char → Option Brackets
  | .none, '[' => some .opened
  | .opened, ']' => some .closed
  | _, '[' => Option.none
  | _, ']' => Option.none
  | b, _ => some b

/-- Checks that a text holds at most one pair of brackets. What is outside of it does not
matter. -/
def checkBrackets (t : Text) : Except EncodingError Unit :=
  match t.foldlM Brackets.next? .none with
  | some .opened | none => .error (.unbalancedBrackets t)
  | some _ => .ok ()

/-- Checks that a text is one pair of brackets and what is between them. -/
def checkIpv6Literal (t : Text) : Except EncodingError Unit :=
  if t.head? = some '[' ∧ t.getLast? = some ']' then checkBrackets t
  else .error (.unbalancedBrackets t)

/-- The text, which may be a pattern, starts with the bracket of an IPv6 address. -/
def looksLikeIpv6 : Text → Bool
  | '[' :: _ :: _ => true
  | '\\' :: '[' :: _ => true
  | '\x7b' :: '[' :: _ => true
  | _ => false

/-- The product of two numbers, if sixteen bits hold it. -/
def product? (m n : UInt16) : Option UInt16 :=
  if m.toNat * n.toNat < UInt16.size then some (m * n) else none

/-- The sum of two numbers, if sixteen bits hold it. -/
def sum? (m n : UInt16) : Option UInt16 :=
  if m.toNat + n.toNat < UInt16.size then some (m + n) else none

/-- The number with one more decimal digit, if sixteen bits hold it. -/
def appendDigit? (n : UInt16) (c : Char) : Option UInt16 := do
  sum? (← product? n 10) (.ofNat (digitValue c))

/-- The number that decimal digits stand for, if sixteen bits hold it. -/
def portNumber? (t : Text) : Option UInt16 := t.foldlM appendDigit? 0

/-- A port without leading zeros. -/
def port (t : Text) : Except EncodingError Text :=
  if t = [] then .ok []
  else if t.all Char.isDigit then
    match portNumber? t with
    | some n => .ok (decimal n.toNat)
    | none => .error (.invalidPort t)
  else .error (.invalidPort t)

/-- The path that a text stands for in a URL with a special scheme. -/
def specialPath (t : Text) : Text := Url.Path.parse .network false (Url.dropIgnored t)

/-- A path of a special scheme. A text that does not start with a slash is a piece of a path: a
segment is put in front of it and taken away again, so that it gets no slash and its first dots do
not stand for themselves. -/
def specialPathname (t : Text) : Except EncodingError Text :=
  match t with
  | [] => .ok []
  | '/' :: _ => .ok (specialPath t)
  | _ => .ok ((specialPath ('/' :: '-' :: t)).drop 2)

/-- A path without hierarchy. -/
def opaquePathname (t : Text) : Except EncodingError Text :=
  .ok (Percent.encode Percent.controls t)

/-- A query without the mark in front of it. -/
def search (t : Text) : Except EncodingError Text :=
  .ok (Percent.encode Percent.specialQuery (Url.dropIgnored (Text.dropLeading '?' t)))

/-- A fragment without the mark in front of it. -/
def hash (t : Text) : Except EncodingError Text :=
  .ok (Percent.encode Percent.fragment (Url.dropIgnored (Text.dropLeading '#' t)))

end UrlMatch.Encoding

namespace UrlMatch.Component

/-- The canonical form of a component's texts. Of the text `raw`, the whole pattern or value, only
its beginning matters, and only for a host name. -/
def encode (c : Component) (raw : Text) (special : Bool) : Text → Except EncodingError Text :=
  match c with
  | protocol => Encoding.protocol
  | username => Encoding.username
  | password => Encoding.password
  | hostname => if Encoding.looksLikeIpv6 raw then Encoding.ipv6Hostname else Encoding.hostname
  | port => Encoding.port
  | pathname => if special then Encoding.specialPathname else Encoding.opaquePathname
  | search => Encoding.search
  | hash => Encoding.hash

end UrlMatch.Component
