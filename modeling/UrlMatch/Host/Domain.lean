import UrlMatch.Host.Punycode
import UrlMatch.Unicode.Character
import UrlMatch.Unicode.Direction
import UrlMatch.Unicode.DomainMapping
import UrlMatch.Unicode.Normalization

/-!
# Domain names in ASCII

`Domain.toAscii?` writes a domain name with ASCII characters only. Its characters are mapped and
composed, it is cut into labels at its points, and each label that is not ASCII is written in
Punycode behind `xn--`. A label that comes in this form is read back, and the same conditions hold
for what it says as for a label that is written out.
-/

namespace UrlMatch.Host.Domain

/-- What marks a label in Punycode. -/
def punycodeMark : Text := ['x', 'n', '-', '-']

/-- A character that no domain name holds: a control, a blank, or a character that separates the
parts of a URL. -/
def isForbidden (c : Char) : Bool :=
  c.val ≤ 0x20 || c.val == 0x7F ||
    c ∈ ['%', '#', '/', ':', '<', '>', '?', '@', '[', '\\', ']', '^', '|']

/-- The class of marks that suppress a vowel. -/
def isVirama (c : Char) : Bool := Unicode.combiningClass c.toNat == 9

/-- Judges the joiners of a label. Each has to follow a vowel-suppressing mark; the non-joiner may
also stand between two characters that would join. `before` is what precedes, last first. -/
def joinersOk (before : Text) : Text → Bool
  | [] => true
  | c :: rest =>
    let here :=
      if c = '\u200D' then before.head?.any isVirama
      else if c = '\u200C' then
        before.head?.any isVirama ||
          ((before.map Unicode.Joining.ofChar).dropWhile (· == .transparent)).head?.any
            (fun j => j == .left || j == .dual) &&
          ((rest.map Unicode.Joining.ofChar).dropWhile (· == .transparent)).head?.any
            (fun j => j == .right || j == .dual)
      else true
    here && joinersOk (c :: before) rest

/-- Judges a label that is not ASCII: it begins with no mark, and its joiners are in place. -/
def isLabel (t : Text) : Bool := !(t.head?.any Unicode.isMark) && joinersOk [] t

/-- A direction that makes a whole domain name one that runs from right to left. -/
def isRightward (d : Unicode.Direction) : Bool :=
  d == .rightToLeft || d == .arabicLetter || d == .arabicNumber

/-- Judges the directions of the characters of a label in a domain name that has characters that
run from right to left. -/
def directionsOk (ds : List Unicode.Direction) : Bool :=
  let last := (ds.reverse.dropWhile (· == .nonspacingMark)).head?
  match ds with
  | [] => true
  | .leftToRight :: _ =>
    ds.all (· ∈ [.leftToRight, .europeanNumber, .europeanSeparator, .commonSeparator,
      .europeanTerminator, .otherNeutral, .boundaryNeutral, .nonspacingMark]) &&
    last.any (· ∈ [.leftToRight, .europeanNumber])
  | .rightToLeft :: _ | .arabicLetter :: _ =>
    ds.all (· ∈ [.rightToLeft, .arabicLetter, .arabicNumber, .europeanNumber,
      .europeanSeparator, .commonSeparator, .europeanTerminator, .otherNeutral,
      .boundaryNeutral, .nonspacingMark]) &&
    last.any (· ∈ [.rightToLeft, .arabicLetter, .europeanNumber, .arabicNumber]) &&
    !(.europeanNumber ∈ ds && .arabicNumber ∈ ds)
  | _ => false

/-- The label that a label in Punycode stands for, if it may stand for it: not for ASCII, and only
for characters that would be kept as they are. -/
def decodeLabel? (t : Text) : Option Text := do
  let label ← Punycode.decode t
  if Text.isAscii label || !label.all Unicode.isDomainValid || Unicode.compose label ≠ label then
    none
  else return label

/-- A label as it is read, beside its form in ASCII. -/
structure Label where
  spelled : Text
  ascii : Text
deriving Repr, DecidableEq

/-- Reads a label of a mapped domain name. -/
def Label.ofMapped? (t : Text) : Option Label :=
  match Text.strip? punycodeMark t with
  | some rest =>
    if !Text.isAscii t then none
    else do
      let spelled ← decodeLabel? rest
      if isLabel spelled then return ⟨spelled, t⟩ else none
  | none =>
    if Text.isAscii t then some ⟨t, t⟩
    else if isLabel t ∧ t.length ≤ 1000 then some ⟨t, punycodeMark ++ Punycode.encode t⟩
    else none

/-- Writes a domain name with ASCII characters. -/
def toAscii? (t : Text) : Option Text := do
  let mapped ← t.mapM Unicode.mapDomain?
  let labels ← (Text.splitBy (· == '.') (Unicode.compose mapped.flatten)).mapM Label.ofMapped?
  let directions := labels.map fun l => l.spelled.map Unicode.Direction.ofChar
  if directions.any (·.any isRightward) && !directions.all directionsOk then none
  else
    let ascii := Text.join ['.'] (labels.map (·.ascii))
    if ascii.any isForbidden then none else return ascii

end UrlMatch.Host.Domain
