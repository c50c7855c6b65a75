import UrlMatch.Component.Basic
import UrlMatch.Pattern.Error

/-!
# Why a URL pattern is refused
-/

namespace UrlMatch

/-- The causes for which there is no URL pattern, or no values for its components. -/
inductive Error
  | invalidComponent (component : Component) (pattern : Text) (cause : Pattern.Error)
  | invalidBase (base : Text) (cause : Url.Error)
  /-- A pattern without a scheme has no base. -/
  | relativeWithoutBase (input : Text)
  /-- A base is given beside fields, which have one of their own. -/
  | baseWithFields
  | invalidValue (component : Component) (value : Text) (cause : EncodingError)
deriving Repr, DecidableEq

/-- The wording of a cause. -/
def Error.message : Error → String
  | invalidComponent c p cause =>
    s!"invalid {c.name} pattern '{String.ofList p}': {cause.message}"
  | invalidBase b cause => s!"invalid base URL '{String.ofList b}': {cause.message}"
  | relativeWithoutBase i =>
    s!"pattern '{String.ofList i}' is relative and no base URL was given"
  | baseWithFields => "a base URL can only be combined with a string input"
  | invalidValue c v cause => s!"invalid {c.name} value '{String.ofList v}': {cause.message}"

end UrlMatch
