import UrlMatch.Fields.Split

/-!
# URL patterns

A `Matcher` holds a compiled pattern for each component. It matches a URL when each of its
components matches, and reports then what the captures of all patterns have matched. A URL is given
as a text or, like a pattern, as fields.
-/

namespace UrlMatch

/-- A URL, or a pattern for URLs. -/
inductive Input
  | text (t : Text)
  | fields (f : Fields)
deriving Repr, DecidableEq

/-- A pattern for URLs, ready to match. -/
structure Matcher where
  components : Components ComponentPattern
  /-- Case makes no difference behind the host. -/
  ignoreCase : Bool

/-- What a component has contributed to a match. -/
structure ComponentMatch where
  value : Text
  groups : Pattern.Groups
deriving Repr, DecidableEq

/-- A match, with the input that it is a match of. -/
structure Match where
  input : Input
  base : Option Text
  components : Components ComponentMatch
deriving Repr, DecidableEq

namespace Matcher

/-- The pattern of a component that is not given. -/
def wildcard : Text := ['*']

/-- A port that is the protocol's own is left out. -/
def withoutDefaultPort (patterns : Components Text) : Components Text :=
  if Url.defaultPort? (Text.asciiLower patterns.protocol) = some patterns.port then
    { patterns with port := [] }
  else patterns

/-- Compiles the patterns of all components. The protocol comes first, as it decides how the path
is read. -/
def compile (patterns : Components Text) (ignoreCase : Bool) : Except Error Matcher := do
  let protocol ← ComponentPattern.ofText .protocol false ignoreCase patterns.protocol
  let special := protocol.matchesSpecialScheme
  let components ← patterns.mapM fun c pattern =>
    if c = .protocol then .ok protocol
    else ComponentPattern.ofText c special ignoreCase pattern
  return ⟨components, ignoreCase⟩

/-- The URL pattern that fields describe. -/
def ofFields (f : Fields) (ignoreCase : Bool) : Except Error Matcher := do
  let patterns ← f.complete .pattern (.replicate wildcard)
  compile (withoutDefaultPort patterns) ignoreCase

/-- The URL pattern that a text or fields describe. -/
def ofInput (input : Input) (base : Option Text) (ignoreCase : Bool) : Except Error Matcher :=
  match input, base with
  | .text t, base => do ofFields (← Fields.split t base) ignoreCase
  | .fields f, none => ofFields f ignoreCase
  | .fields _, some _ => .error .baseWithFields

/-- The components of a URL as they are matched, without the marks that separate them. -/
def urlValues (u : Url) : Components Text where
  protocol := u.scheme
  username := u.username
  password := u.password.getD []
  hostname := u.hostname
  port := u.portText
  pathname := u.path
  search := (u.query.getD []).dropWhile (· == '?')
  hash := (u.fragment.getD []).dropWhile (· == '#')

/-- The URL that a text stands for beside a base. -/
def parseUrl? (t : Text) (base : Option Text) : Option Url :=
  match base with
  | none => (Url.parse none t).toOption
  | some b => do (Url.parse (some (← (Url.parse none b).toOption)) t).toOption

/-- The values that are matched, if the input stands for a URL. -/
def resolve? (input : Input) (base : Option Text) : Option (Components Text) :=
  match input, base with
  | .text t, base => (parseUrl? t base).map urlValues
  | .fields f, none => (f.complete .url (.replicate [])).toOption
  | .fields _, some _ => none

/-- Says whether an input matches. -/
def test (m : Matcher) (input : Input) (base : Option Text) : Bool :=
  match resolve? input base with
  | none => false
  | some values => Component.all.all fun c => (m.components.get c).compiled.isMatch (values.get c)

/-- What a value contributes, if it matches the pattern of its component. -/
def matchComponent? (m : Matcher) (c : Component) (value : Text) : Option ComponentMatch :=
  ((m.components.get c).compiled.groups? value).map fun groups => ⟨value, groups⟩

/-- The match of an input, if it matches. -/
def exec? (m : Matcher) (input : Input) (base : Option Text) : Option Match := do
  let values ← resolve? input base
  return ⟨input, base, ← values.mapM m.matchComponent?⟩

/-- The canonical text of the pattern of a component. -/
def pattern (m : Matcher) (c : Component) : Text := (m.components.get c).pattern

/-- Some capture is described by a regular expression of its own. -/
def hasRegexp (m : Matcher) : Bool := Component.all.any fun c => (m.components.get c).hasRegexp

end Matcher

end UrlMatch
