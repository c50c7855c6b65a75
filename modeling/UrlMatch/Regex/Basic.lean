import UrlMatch.Regex.CharClass
import UrlMatch.Unicode.Character

/-!
# Regular expressions

The regular expressions of this library: character classes, looks at the surroundings of a
position, groups that record what they match, sequences, ordered choices and ordered repetitions.
The order matters: of all ways to match, the first one in it is reported.
-/

namespace UrlMatch.Regex

/-- A condition on the characters on both sides of a position. -/
inductive Look
  | startText
  | endText
  | startLine
  | endLine
  /-- As `startLine`, where a carriage return ends a line too. -/
  | startLineCrlf
  | endLineCrlf
  | wordBoundary (unicode : Bool)
  | notWordBoundary (unicode : Bool)
  | wordStart (unicode : Bool)
  | wordEnd (unicode : Bool)
  | wordStartHalf (unicode : Bool)
  | wordEndHalf (unicode : Bool)
deriving Repr, DecidableEq

namespace Look

/-- A character of a word, where only ASCII ones count unless `unicode`. -/
def isWord (unicode : Bool) (c : Char) : Bool :=
  if unicode then Unicode.isWord c else c.isAlphanum || c == '_'

/-- Judges a position by the character before it and the one behind it. -/
def holds (l : Look) (before behind : Option Char) : Bool :=
  match l with
  | startText => before.isNone
  | endText => behind.isNone
  | startLine => before.all (· == '\n')
  | endLine => behind.all (· == '\n')
  | startLineCrlf => before.all fun c => c == '\n' || (c == '\r' && behind != some '\n')
  | endLineCrlf => behind.all fun c => c == '\r' || (c == '\n' && before != some '\r')
  | wordBoundary u => before.any (isWord u) != behind.any (isWord u)
  | notWordBoundary u => before.any (isWord u) == behind.any (isWord u)
  | wordStart u => !before.any (isWord u) && behind.any (isWord u)
  | wordEnd u => before.any (isWord u) && !behind.any (isWord u)
  | wordStartHalf u => !before.any (isWord u)
  | wordEndHalf u => !behind.any (isWord u)

end Look

end UrlMatch.Regex

namespace UrlMatch

/-- A regular expression. -/
inductive Regex
  | empty
  /-- One character of a class. -/
  | one (c : Regex.CharClass)
  | look (l : Regex.Look)
  /-- Records what `r` matches under the number `index`. -/
  | group (index : Nat) (r : Regex)
  | seq (a b : Regex)
  /-- The first alternative is preferred. -/
  | alt (a b : Regex)
  /-- At least `least` times and at most `most`, as often as possible if `greedy`, else as seldom
  as possible. -/
  | repeated (r : Regex) (least : Nat) (most : Option Nat) (greedy : Bool)
deriving Repr, DecidableEq, Inhabited

namespace Regex

/-- One after the other. -/
def sequence (rs : List Regex) : Regex := rs.foldr seq empty

/-- One of several, earlier ones preferred. -/
def choice : List Regex → Regex
  | [] => empty
  | [r] => r
  | r :: next :: rs => alt r (choice (next :: rs))

end Regex

end UrlMatch
