import UrlMatch.Component.EncodingError

/-!
# What a component decides about its patterns

`ReadOptions` says how a pattern is read and `MatchOptions` how it matches. Both know the
delimiters, the characters at which a segment ends; `segmentRegexp` is the regular expression of
a segment and `delimiterClass` the one of a single delimiter.
-/

namespace UrlMatch.Pattern

/-- The delimiters of a pattern, unless its component says otherwise. -/
def defaultDelimiters : Text := ['/', '#', '?']

/-- The characters that a capture takes along, unless its component says otherwise. -/
def defaultLeads : Text := ['.', '/']

/-- The delimiters of a host name. -/
def hostDelimiters : Text := ['.']

/-- A character that has a meaning inside the brackets of a character class. -/
def isClassSpecial (c : Char) : Bool := c ∈ ['\\', ']', '[', '^', '-', '&', '~']

/-- Writes characters so that they stand for themselves inside the brackets of a class. -/
def escapeClass (t : Text) : Text :=
  t.flatMap fun c => if isClassSpecial c then ['\\', c] else [c]

/-- The regular expression of a segment: as few characters as possible, but at least one, and no
delimiter. -/
def segmentRegexp (delimiters : Text) : Text :=
  if delimiters = [] then ['.', '+', '?']
  else ['[', '^'] ++ escapeClass delimiters ++ [']', '+', '?']

/-- The regular expression of one delimiter, if there are delimiters. -/
def delimiterClass? (delimiters : Text) : Option Text :=
  if delimiters = [] then none else some ('[' :: escapeClass delimiters ++ [']'])

/-- How a pattern is read. -/
structure ReadOptions where
  delimiters : Text
  /-- The characters that a capture behind them takes along. -/
  leads : Text
  /-- The canonical form of fixed text. Regular expressions are kept as they are. -/
  encode : Text → Except EncodingError Text

namespace ReadOptions

/-- Any text is its own canonical form. -/
def default : ReadOptions := ⟨defaultDelimiters, defaultLeads, .ok⟩

/-- The options of a host name, any text being its own canonical form. -/
def hostname : ReadOptions := ⟨hostDelimiters, [], .ok⟩

/-- The text is a single character that a capture behind it takes along. -/
def isLead (o : ReadOptions) : Text → Bool
  | [c] => c ∈ o.leads
  | _ => false

end ReadOptions

/-- How a pattern matches. -/
structure MatchOptions where
  delimiters : Text
  /-- Upper and lower case differ. -/
  sensitive : Bool
  /-- A delimiter behind the end is not tolerated. -/
  strict : Bool
  /-- The match begins where the input begins. -/
  fromStart : Bool
  /-- The match ends where the input ends. -/
  toEnd : Bool
deriving Repr, DecidableEq

namespace MatchOptions

/-- The whole input has to match, up to one delimiter behind it. -/
def default : MatchOptions := ⟨defaultDelimiters, true, false, true, true⟩

/-- As `default`, with the delimiters of a host name. -/
def hostname : MatchOptions := { default with delimiters := hostDelimiters }

end MatchOptions

end UrlMatch.Pattern
