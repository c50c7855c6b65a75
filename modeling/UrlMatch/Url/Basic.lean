import UrlMatch.Host.Basic
import UrlMatch.Url.Scheme

/-!
# URLs
-/

namespace UrlMatch

/-- A URL, taken apart. The texts are in canonical form. -/
structure Url where
  scheme : Text
  username : Text
  password : Option Text
  /-- The scheme is followed by two slashes. -/
  authority : Bool
  host : Option Host
  /-- The port, unless it is the one that the scheme uses anyway. -/
  port : Option Nat
  path : Text
  query : Option Text
  fragment : Option Text
deriving Repr, DecidableEq

namespace Url

/-- The kind of the scheme. -/
def kind (u : Url) : SchemeKind := .ofScheme u.scheme

/-- The path has no hierarchy, so that nothing can be relative to the URL. -/
def isOpaque (u : Url) : Bool := !u.authority && u.path.head? != some '/'

/-- The text of the host; empty if there is none. -/
def hostname (u : Url) : Text := (u.host.map Host.render).getD []

/-- The text of the port; empty if there is none. -/
def portText (u : Url) : Text := (u.port.map decimal).getD []

end Url

end UrlMatch
