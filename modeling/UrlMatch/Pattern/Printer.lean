import UrlMatch.Pattern.Lexer
import UrlMatch.Pattern.Options
import UrlMatch.Pattern.Part

/-!
# Writing patterns

`render` writes parts as a pattern that reads back as the same parts. Braces are written only
where the text would read differently without them; whether it would depends on the parts on both
sides.
-/

namespace UrlMatch.Pattern

/-- A character that has a meaning in patterns. -/
def isSpecial (c : Char) : Bool :=
  c ∈ ['+', '*', '?', ':', '\x7b', '\x7d', '(', ')', '\\']

/-- Writes a text so that a pattern takes every character for itself. -/
def escape (t : Text) : Text := t.flatMap fun c => if isSpecial c then ['\\', c] else [c]

/-- The text is not empty and its first character could continue a name. -/
def continuesName (t : Text) : Bool := t.head?.any isNamePart

namespace Capture

/-- A name without a regular expression and without a modifier, which takes in whatever follows
that could belong to it. -/
def isOpenEnded (c : Capture) : Bool := c.isNamed && c.kind == .segment && c.modifier == .once

/-- Written behind an open-ended name, the part would be read as belonging to it. -/
def absorbs : Option Part → Bool
  | some (.fixed value .once) => continuesName value
  | some (.capture next) => !next.isNamed && next.lead == [] && next.trail == []
  | _ => false

/-- The capture would take along the last character of the part before it. -/
def takesFrom (o : ReadOptions) : Option Part → Bool
  | some (.fixed value .once) => value.getLast?.any (· ∈ o.leads)
  | _ => false

/-- The capture has to be written in braces between the given parts. -/
def needsBraces (o : ReadOptions) (c : Capture) (previous next : Option Part) : Bool :=
  c.trail != [] ||
  (c.lead != [] && !o.isLead c.lead) ||
  (c.isOpenEnded && absorbs next) ||
  (c.lead == [] && takesFrom o previous)

/-- Behind the given part an asterisk starts a capture and is no modifier. -/
def asteriskIsBare : Option Part → Bool
  | none => true
  | some (.fixed _ _) => true
  | some (.capture p) => p.modifier != .once

/-- The text of what a capture matches, behind its name. -/
def renderKind (o : ReadOptions) (c : Capture) (braced : Bool) (previous : Option Part) : Text :=
  match c.kind with
  | .custom r => '(' :: r ++ [')']
  | .segment => if c.isNamed then [] else '(' :: segmentRegexp o.delimiters ++ [')']
  | .wildcard =>
    if !c.isNamed && (braced || c.lead != [] || asteriskIsBare previous) then ['*']
    else '(' :: wildcardRegexp ++ [')']

/-- The text of a capture between its braces. -/
def renderBody (o : ReadOptions) (c : Capture) (braced : Bool) (previous : Option Part) : Text :=
  let name := match c.name with
    | .named n => ':' :: n
    | .ordinal _ => []
  let guard := if c.isNamed && c.kind == .segment && continuesName c.trail then ['\\'] else []
  escape c.lead ++ name ++ c.renderKind o braced previous ++ guard ++ escape c.trail

/-- The text of a capture between the given parts. -/
def render (o : ReadOptions) (c : Capture) (previous next : Option Part) : Text :=
  let braced := c.needsBraces o previous next
  let body := c.renderBody o braced previous
  (if braced then '\x7b' :: body ++ ['\x7d'] else body) ++ c.modifier.text

end Capture

/-- The text of a part between the given parts. -/
def Part.render (o : ReadOptions) (previous : Option Part) (part : Part) (next : Option Part) :
    Text :=
  match part with
  | .fixed value .once => escape value
  | .fixed value m => '\x7b' :: escape value ++ '\x7d' :: m.text
  | .capture c => c.render o previous next

/-- The text of parts that follow the part `previous`. -/
def renderFrom (o : ReadOptions) (previous : Option Part) : List Part → Text
  | [] => []
  | p :: rest => p.render o previous rest.head? ++ renderFrom o (some p) rest

/-- The text of a pattern. -/
def render (o : ReadOptions) (parts : List Part) : Text := renderFrom o none parts

end UrlMatch.Pattern
