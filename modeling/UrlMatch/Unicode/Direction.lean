import UrlMatch.Unicode.DirectionData
import UrlMatch.Unicode.Table

/-!
# Direction and joining

How a character behaves in text that runs from right to left, and how it joins its neighbours in
cursive scripts.
-/

namespace UrlMatch.Unicode

/-- A bidirectional class. Classes that domain names have no use for are one. -/
inductive Direction
  | leftToRight | rightToLeft | arabicLetter | arabicNumber | europeanNumber | europeanSeparator
  | commonSeparator | europeanTerminator | otherNeutral | boundaryNeutral | nonspacingMark | other
deriving Repr, DecidableEq

/-- The bidirectional classes in the order of their tags. -/
def Direction.all : List Direction :=
  [leftToRight, rightToLeft, arabicLetter, arabicNumber, europeanNumber, europeanSeparator,
    commonSeparator, europeanTerminator, otherNeutral, boundaryNeutral, nonspacingMark, other]

/-- The code points that are not of the class `leftToRight`. -/
def directionSpans : List Span := spans directionWords

/-- The bidirectional class of a character. -/
def Direction.ofChar (c : Char) : Direction :=
  ((tagOf? directionSpans c.toNat).bind (Direction.all[·]?)).getD leftToRight

/-- A joining type. -/
inductive Joining
  | dual | right | left | transparent | causing | none
deriving Repr, DecidableEq

/-- The joining types in the order of their tags. -/
def Joining.all : List Joining := [dual, right, left, transparent, causing]

/-- The code points that join or are transparent to joining. -/
def joiningSpans : List Span := spans joiningWords

/-- The joining type of a character. -/
def Joining.ofChar (c : Char) : Joining :=
  ((tagOf? joiningSpans c.toNat).bind (Joining.all[·]?)).getD none

end UrlMatch.Unicode
