import UrlMatch.Text

/-!
# Parts of a pattern

A pattern is a list of parts: fixed text, and captures. Both may be optional or repeated, as the
part's modifier says.
-/

namespace UrlMatch.Pattern

/-- How often a part may occur. -/
inductive Modifier
  /-- Exactly once. -/
  | once
  /-- At most once. -/
  | optional
  /-- Any number of times. -/
  | zeroOrMore
  /-- At least once. -/
  | oneOrMore
deriving Repr, DecidableEq, Inhabited

namespace Modifier

/-- The modifier that a character writes. -/
def ofChar? : Char → Option Modifier
  | '?' => some optional
  | '*' => some zeroOrMore
  | '+' => some oneOrMore
  | _ => none

/-- The text of a modifier. -/
def text : Modifier → Text
  | once => []
  | optional => ['?']
  | zeroOrMore => ['*']
  | oneOrMore => ['+']

/-- The part may be absent. -/
def isOptional : Modifier → Bool
  | optional | zeroOrMore => true
  | _ => false

/-- The part may occur several times. -/
def isRepeating : Modifier → Bool
  | zeroOrMore | oneOrMore => true
  | _ => false

/-- Says whether a part with the modifier may occur `n` times. -/
def Allows (m : Modifier) (n : Nat) : Prop :=
  (n = 0 → m.isOptional) ∧ (1 < n → m.isRepeating)

end Modifier

/-- What a capture goes by. -/
inductive CaptureName
  | named (name : Text)
  /-- The position among the captures without a name. -/
  | ordinal (n : Nat)
deriving Repr, DecidableEq

/-- The text that a capture's value is found under. -/
def CaptureName.display : CaptureName → Text
  | named name => name
  | ordinal n => decimal n

/-- What a capture matches. -/
inductive CaptureKind
  /-- A non-empty text without delimiters, as short as possible. -/
  | segment
  /-- Any text within a line. -/
  | wildcard
  /-- What a regular expression says. -/
  | custom (regexp : Text)
deriving Repr, DecidableEq

/-- The regular expression of the wildcard. -/
def wildcardRegexp : Text := ['.', '*']

namespace CaptureKind

/-- The kind that a regular expression describes, where `segmentRegexp` describes a segment. -/
def classify (regexp segmentRegexp : Text) : CaptureKind :=
  if regexp = wildcardRegexp then wildcard
  else if regexp = segmentRegexp then segment
  else custom regexp

/-- The regular expression of a kind. -/
def regexp (segmentRegexp : Text) : CaptureKind → Text
  | segment => segmentRegexp
  | wildcard => wildcardRegexp
  | custom r => r

/-- A kind that is written as a regular expression of its own. -/
def isCustom : CaptureKind → Bool
  | custom _ => true
  | _ => false

end CaptureKind

/-- A piece of the input that a match reports, between two fixed texts that come and go with
it. -/
structure Capture where
  name : CaptureName
  lead : Text
  trail : Text
  kind : CaptureKind
  modifier : Modifier
deriving Repr, DecidableEq

/-- The capture has a name that its author gave. -/
def Capture.isNamed (c : Capture) : Bool :=
  match c.name with
  | .named _ => true
  | .ordinal _ => false

/-- A part of a pattern. -/
inductive Part
  | fixed (value : Text) (modifier : Modifier)
  | capture (c : Capture)
deriving Repr, DecidableEq

namespace Part

/-- How often a part may occur. -/
def modifier : Part → Modifier
  | fixed _ m => m
  | capture c => c.modifier

/-- The capture that a part is, if it is one. -/
def capture? : Part → Option Capture
  | fixed _ _ => none
  | capture c => some c

end Part

end UrlMatch.Pattern
