import UrlMatch.Text

/-!
# Schemes

Six schemes are special: their URLs have a host and a path that is never empty, and a backslash
separates segments as a slash does.
-/

namespace UrlMatch.Url

/-- The schemes with conventions of their own. -/
def specialSchemes : List Text :=
  ["ftp".toList, "file".toList, "http".toList, "https".toList, "ws".toList, "wss".toList]

/-- The scheme is special. -/
def isSpecialScheme (scheme : Text) : Bool := scheme ∈ specialSchemes

/-- The port that a scheme uses unless another one is named. -/
def defaultPort? (scheme : Text) : Option Text :=
  if scheme = "ftp".toList then some ['2', '1']
  else if scheme = "http".toList ∨ scheme = "ws".toList then some ['8', '0']
  else if scheme = "https".toList ∨ scheme = "wss".toList then some ['4', '4', '3']
  else none

/-- What the rules of a URL depend on. -/
inductive SchemeKind
  | file
  /-- Any other special scheme. -/
  | network
  | plain
deriving Repr, DecidableEq

namespace SchemeKind

/-- The kind of a scheme. -/
def ofScheme (scheme : Text) : SchemeKind :=
  if scheme = "file".toList then file else if isSpecialScheme scheme then network else plain

/-- The schemes of the kind are special. -/
def isSpecial : SchemeKind → Bool
  | file | network => true
  | plain => false

end SchemeKind

end UrlMatch.Url
