import UrlMatch.Proofs.Component.Canonical
import UrlMatch.Proofs.Component.PathPiece
import UrlMatch.Proofs.Component.Printable
import UrlMatch.Proofs.Component.Spelling
import UrlMatch.Proofs.Fields.Folder
import UrlMatch.Proofs.Fields.Given
import UrlMatch.Proofs.Fields.Iterations
import UrlMatch.Proofs.Fields.Join
import UrlMatch.Proofs.Fields.Reading
import UrlMatch.Proofs.Fields.Slices
import UrlMatch.Proofs.Matcher.Default
import UrlMatch.Proofs.Matcher.DefaultPort
import UrlMatch.Proofs.Matcher.IgnoreCase
import UrlMatch.Proofs.Matcher.Independence
import UrlMatch.Proofs.Matcher.Inherited
import UrlMatch.Proofs.Matcher.Ipv6
import UrlMatch.Proofs.Matcher.Literal
import UrlMatch.Proofs.Matcher.Relative
import UrlMatch.Proofs.Pattern.Braces
import UrlMatch.Proofs.Pattern.Grammar
import UrlMatch.Proofs.Pattern.KeyGroups
import UrlMatch.Proofs.Pattern.OpenEnd
import UrlMatch.Proofs.Pattern.Rebuild
import UrlMatch.Proofs.Pattern.RoundTrip
import UrlMatch.Proofs.Pattern.Tidy
import UrlMatch.Proofs.Session
