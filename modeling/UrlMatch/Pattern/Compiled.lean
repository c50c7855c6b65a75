import UrlMatch.Pattern.Error
import UrlMatch.Pattern.Source
import UrlMatch.Regex.Parser
import UrlMatch.Regex.Search

/-!
# Patterns that match

A compiled pattern pairs a regular expression with the keys of its captures. Groups are reported by
position: the key at position `i` is given what the group `i + 1` has recorded. That is the group
of its capture as long as the regular expression reads the brackets of every capture as they are
meant; a capture with an expression of its own can upset this, and then keys and groups do not
correspond.

## Limits

Implementations of regular expressions bound the size of a compiled expression (10 MiB is usual)
and the depth to which it may be nested (250 levels), and refuse an expression beyond that. These
bounds are not modelled: `compile` refuses malformed expressions only. Whatever is proved about its
success, and about the success of what is built on it, is said apart from them.
-/

namespace UrlMatch.Pattern

/-- What a match reports a capture under. -/
structure Key where
  name : CaptureName
  lead : Text
  trail : Text
  modifier : Modifier
deriving Repr, DecidableEq

/-- The key of a capture. -/
def Capture.key (c : Capture) : Key := ⟨c.name, c.lead, c.trail, c.modifier⟩

/-- The keys of the captures among parts, in order. -/
def keysOf (parts : List Part) : List Key := parts.filterMap fun p => p.capture?.map Capture.key

/-- The captured text, or its absence, by name. -/
abbrev Groups := List (Text × Option Text)

/-- A pattern that is ready to match. -/
structure Compiled where
  /-- The text of the regular expression. -/
  source : Text
  program : Regex.Program
  keys : List Key

/-- Compiles parts, unless the regular expression they stand for is malformed. There is no bound on
its size or nesting. -/
def compile (o : MatchOptions) (parts : List Part) : Except Error Compiled :=
  let source := source o parts
  match Regex.parse? source with
  | none => .error .regex
  | some r => .ok ⟨source, Regex.program r, keysOf parts⟩

namespace Compiled

/-- Says whether a text matches. -/
def isMatch (c : Compiled) (t : Text) : Bool := c.program.isMatch t

/-- The captures of the first match in a text. -/
def groups? (c : Compiled) (t : Text) : Option Groups :=
  (c.program.find? t).map fun m =>
    c.keys.mapIdx fun i key => (key.name.display, m.text? t (i + 1))

end Compiled

end UrlMatch.Pattern
