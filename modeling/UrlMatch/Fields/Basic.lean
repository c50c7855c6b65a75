import UrlMatch.Component.Encoding
import UrlMatch.Error
import UrlMatch.Pattern.Printer

/-!
# Fields

A pattern, or a URL to be matched, can be given component by component. What is not given comes
from a base URL, as far as it makes sense beside what is given, or from defaults.
-/

namespace UrlMatch

/-- The components that are given, and a base URL. -/
structure Fields where
  values : Components (Option Text)
  base : Option Text
deriving Repr, DecidableEq

/-- What the fields describe. -/
inductive Mode
  /-- Patterns, which are taken as they are. -/
  | pattern
  /-- A URL, whose components are brought into their canonical form. -/
  | url
deriving Repr, DecidableEq

namespace Fields

/-- Nothing is given. -/
def empty : Fields := ⟨.replicate none, none⟩

/-- The text of a component, if it is given. -/
def get? (f : Fields) (c : Component) : Option Text := f.values.get c

/-- Gives a component. -/
def set (f : Fields) (c : Component) (value : Text) : Fields :=
  { f with values := f.values.set c (some value) }

@[simp] theorem get?_set_self (f : Fields) (c : Component) (value : Text) :
    (f.set c value).get? c = some value := by
  simp [get?, set]

/-- None of the components is given. -/
def lacks (f : Fields) (cs : List Component) : Bool := cs.all fun c => (f.get? c).isNone

/-- What a component takes from a base: a pattern that matches just this text, or the text. -/
def inherited (mode : Mode) (t : Text) : Text :=
  match mode with
  | .pattern => Pattern.escape t
  | .url => t

/-- The components that have to be missing for a component to come from the base. A user name and
a password are no part of what a pattern inherits. -/
def guards : Component → List Component
  | .protocol => [.protocol]
  | .username => [.protocol, .hostname, .port, .username]
  | .password => [.protocol, .hostname, .port, .username, .password]
  | .hostname => [.protocol, .hostname]
  | .port => [.protocol, .hostname, .port]
  | .pathname => [.protocol, .hostname, .port, .pathname]
  | .search => [.protocol, .hostname, .port, .pathname, .search]
  | .hash => [.protocol, .hostname, .port, .pathname, .search, .hash]

/-- The text of a component of a URL. -/
def baseText (u : Url) : Component → Text
  | .protocol => u.scheme
  | .username => u.username
  | .password => u.password.getD []
  | .hostname => u.hostname
  | .port => u.portText
  | .pathname => u.path
  | .search => u.query.getD []
  | .hash => u.fragment.getD []

/-- The component is inherited from a base. -/
def inherits (f : Fields) (mode : Mode) (c : Component) : Bool :=
  f.lacks (guards c) && (mode == .url || (c != .username && c != .password))

/-- Fills in what a base says. -/
def inherit (f : Fields) (mode : Mode) (u : Url) (values : Components Text) : Components Text :=
  values.map fun c value =>
    if f.inherits mode c then inherited mode (baseText u c) else value

/-- The path does not depend on a base. A pattern may write its slash behind a backslash or a
brace. -/
def isAbsolutePath (mode : Mode) : Text → Bool
  | '/' :: _ => true
  | '\\' :: '/' :: _ => mode == .pattern
  | '\x7b' :: '/' :: _ => mode == .pattern
  | _ => false

/-- Puts a relative path behind the last slash of a base's path. -/
def resolvePath (mode : Mode) (u : Url) (path : Text) : Text :=
  match Text.cutAfterLast? '/' (inherited mode u.path) with
  | some (folder, _) => folder ++ path
  | none => path

/-- A given text without the mark that separates it from its neighbour, a path completed by the
one of the base. -/
def completed (mode : Mode) (base : Option Url) (c : Component) (raw : Text) : Text :=
  match c with
  | .protocol => Text.dropTrailing ':' raw
  | .search => Text.dropLeading '?' raw
  | .hash => Text.dropLeading '#' raw
  | .pathname =>
    match base with
    | some u => if !u.isOpaque && !isAbsolutePath mode raw then resolvePath mode u raw else raw
    | none => raw
  | _ => raw

/-- The canonical form of a component's value beside the given protocol. The port that the
protocol uses anyway is left out. -/
def canonicalValue (c : Component) (protocol value : Text) : Except Error Text :=
  let special := protocol = [] || Url.isSpecialScheme protocol
  let result : Except EncodingError Text := do
    if c = .hostname ∧ Encoding.looksLikeIpv6 value then Encoding.checkIpv6Literal value
    c.encode value special value
  match result with
  | .ok t => .ok (if c = .port ∧ Url.defaultPort? protocol = some t then [] else t)
  | .error cause => .error (.invalidValue c value cause)

/-- Puts a given component over what is there so far. -/
def place (f : Fields) (mode : Mode) (base : Option Url) (values : Components Text)
    (c : Component) : Except Error (Components Text) :=
  match f.get? c with
  | none => .ok values
  | some raw =>
    let value := completed mode base c raw
    match mode with
    | .pattern => .ok (values.set c value)
    | .url => (canonicalValue c values.protocol value).map (values.set c)

/-- Reads the base. -/
def baseUrl (f : Fields) : Except Error (Option Url) :=
  match f.base with
  | none => .ok none
  | some t =>
    match Url.parse none t with
    | .ok u => .ok (some u)
    | .error cause => .error (.invalidBase t cause)

/-- The values of all components: the defaults, over them what the base says, over that what is
given. -/
def complete (f : Fields) (mode : Mode) (defaults : Components Text) :
    Except Error (Components Text) := do
  let base ← f.baseUrl
  let start := match base with
    | none => defaults
    | some u => f.inherit mode u defaults
  Component.all.foldlM (f.place mode base) start

end Fields

end UrlMatch
