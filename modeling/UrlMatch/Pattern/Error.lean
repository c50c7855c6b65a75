import UrlMatch.Component.EncodingError
import UrlMatch.Pattern.Lexeme

/-!
# Why a pattern is refused
-/

namespace UrlMatch.Pattern

/-- The causes for which a text is no pattern. An index is a byte of the text. -/
inductive Error
  /-- A backslash ends the text. -/
  | loneEscape (index : Nat)
  /-- No name stands behind a colon. -/
  | missingName (index : Nat)
  /-- A regular expression starts with a question mark. -/
  | leadingQuestionMark (index : Nat)
  /-- A group inside a regular expression would capture. -/
  | nestedCapture (index : Nat)
  /-- A regular expression is not closed. -/
  | unbalancedRegexp (index : Nat)
  /-- A regular expression is empty. -/
  | emptyRegexp (index : Nat)
  /-- A lexeme stands where another kind is needed. -/
  | unexpected (index : Nat) (found expected : LexemeKind)
  /-- Two captures have one name. -/
  | duplicateName (name : Text)
  /-- A fixed text has no canonical form. -/
  | encoding (value : Text) (cause : EncodingError)
  /-- The regular expression that the pattern stands for is malformed or too large. -/
  | regex
deriving Repr, DecidableEq

/-- The wording of a cause. -/
def Error.message : Error → String
  | loneEscape i => s!"trailing escape character at index {i}"
  | missingName i => s!"missing parameter name at index {i}"
  | leadingQuestionMark i => s!"regexp group at index {i} must not start with '?'"
  | nestedCapture i =>
    s!"nested capturing groups are not allowed (regexp group at index {i})"
  | unbalancedRegexp i => s!"unbalanced regexp group starting at index {i}"
  | emptyRegexp i => s!"empty regexp group at index {i}"
  | unexpected i found expected =>
    s!"unexpected {found.label} at index {i}, expected {expected.label}"
  | duplicateName n => s!"duplicate capture name '{String.ofList n}'"
  | encoding v cause => s!"could not encode '{String.ofList v}': {cause.message}"
  | regex => "generated regular expression is invalid"

end UrlMatch.Pattern
