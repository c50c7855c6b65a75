import UrlMatch.Component.Encoding
import UrlMatch.Error
import UrlMatch.Pattern.Compiled
import UrlMatch.Pattern.Parser
import UrlMatch.Pattern.Printer

/-!
# Patterns of components

A component decides how its pattern is read and how it matches: the path depends on whether the
scheme is special, and a host name on whether it is an IPv6 address in brackets.
-/

namespace UrlMatch

namespace Component

/-- How a component's pattern is read. -/
def readOptions (c : Component) (raw : Text) (special : Bool) : Pattern.ReadOptions :=
  let base := if c = hostname then Pattern.ReadOptions.hostname else .default
  { base with encode := c.encode raw special }

/-- Case may be ignored in the component. -/
def mayIgnoreCase : Component → Bool
  | pathname | search | hash => true
  | _ => false

/-- How a component's pattern matches. Only a path tolerates a delimiter behind its end. -/
def matchOptions (c : Component) (ignoreCase : Bool) : Pattern.MatchOptions :=
  let base := if c = hostname then Pattern.MatchOptions.hostname else .default
  { base with
    sensitive := !(ignoreCase && c.mayIgnoreCase)
    strict := c != pathname }

end Component

/-- The pattern of one component, ready to match. -/
structure ComponentPattern where
  /-- The canonical text of the pattern. -/
  pattern : Text
  compiled : Pattern.Compiled
  /-- Some capture is described by a regular expression of its own. -/
  hasRegexp : Bool

namespace ComponentPattern

/-- The fixed texts of parts, one behind the other. -/
def fixedText (parts : List Pattern.Part) : Text :=
  parts.flatMap fun
    | .fixed value _ => value
    | .capture c => c.lead ++ c.trail

/-- Checks the brackets of an IPv6 address. Captures may cut it, so its fixed texts are checked as
one. -/
def checkBrackets (parts : List Pattern.Part) : Except Pattern.Error Unit :=
  match Encoding.checkBrackets (fixedText parts) with
  | .ok () => .ok ()
  | .error cause => .error (.encoding (fixedText parts) cause)

/-- Some capture is described by a regular expression of its own. -/
def hasRegexpGroup (parts : List Pattern.Part) : Bool :=
  parts.any fun
    | .fixed _ _ => false
    | .capture c => c.kind.isCustom

/-- The parts of a component's pattern. -/
def parts (c : Component) (pattern : Text) (read : Pattern.ReadOptions) :
    Except Pattern.Error (List Pattern.Part) := do
  let ps ← Pattern.parse read pattern
  if c = .hostname ∧ Encoding.looksLikeIpv6 pattern then checkBrackets ps
  return ps

/-- Compiles the pattern of a component. -/
def compile (c : Component) (pattern : Text) (read : Pattern.ReadOptions)
    (options : Pattern.MatchOptions) : Except Error ComponentPattern :=
  let result : Except Pattern.Error ComponentPattern := do
    let ps ← parts c pattern read
    let compiled ← Pattern.compile options ps
    return ⟨Pattern.render read ps, compiled, hasRegexpGroup ps⟩
  match result with
  | .ok p => .ok p
  | .error cause => .error (.invalidComponent c pattern cause)

/-- Compiles the pattern of a component with the options that are the component's own. -/
def ofText (c : Component) (special ignoreCase : Bool) (pattern : Text) :
    Except Error ComponentPattern :=
  compile c pattern (c.readOptions pattern special) (c.matchOptions ignoreCase)

/-- The pattern matches one of the special schemes. -/
def matchesSpecialScheme (p : ComponentPattern) : Bool :=
  Url.specialSchemes.any p.compiled.isMatch

end ComponentPattern

end UrlMatch
