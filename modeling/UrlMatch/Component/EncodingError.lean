import UrlMatch.Text
import UrlMatch.Url.Error

/-!
# Why a component's text has no canonical form
-/

namespace UrlMatch

/-- The causes for which a text cannot be written in the canonical form of a component. -/
inductive EncodingError
  | invalidProtocol (value : Text)
  | forbiddenHostCharacter (value : Text) (found : Char)
  | invalidHostname (value : Text) (cause : Url.Error)
  | invalidIpv6Hostname (value : Text) (found : Char)
  | unbalancedBrackets (value : Text)
  | invalidPort (value : Text)
deriving Repr, DecidableEq

/-- The wording of a cause. -/
def EncodingError.message : EncodingError → String
  | invalidProtocol v => s!"invalid protocol '{String.ofList v}'"
  | forbiddenHostCharacter v c =>
    s!"hostname '{String.ofList v}' contains forbidden code point '{c}'"
  | invalidHostname v cause => s!"invalid hostname '{String.ofList v}': {cause.message}"
  | invalidIpv6Hostname v c => s!"invalid IPv6 hostname '{String.ofList v}' (found '{c}')"
  | unbalancedBrackets v => s!"unbalanced brackets in IPv6 hostname '{String.ofList v}'"
  | invalidPort v => s!"invalid port '{String.ofList v}'"

end UrlMatch
