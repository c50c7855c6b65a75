import UrlMatch.Unicode.CaseFold

/-!
# Classes of characters

The classes that a regular expression can describe, as they are described: ranges and tables
combined by the set operations and by case folding. `CharClass.holds` says which code points a
class has.
-/

namespace UrlMatch.Regex

/-- A description of a set of code points. -/
inductive CharClass
  | none
  /-- The code points from the first to the last. -/
  | range (first last : Nat)
  | table (spans : List Unicode.Span)
  | union (a b : CharClass)
  | inter (a b : CharClass)
  | diff (a b : CharClass)
  | symmDiff (a b : CharClass)
  | compl (a : CharClass)
  /-- All variants in case of the code points of a class. -/
  | fold (a : CharClass)
  /-- The ASCII variants in case of the code points of a class. -/
  | foldAscii (a : CharClass)
deriving Repr, DecidableEq, Inhabited

namespace CharClass

/-- The other case of an ASCII letter. -/
def swapCase (n : Nat) : Nat :=
  if 0x41 ≤ n ∧ n ≤ 0x5A then n + 32 else if 0x61 ≤ n ∧ n ≤ 0x7A then n - 32 else n

/-- Says whether a class has the code point `n`. -/
def holds : CharClass → Nat → Bool
  | none, _ => false
  | range first last, n => first ≤ n && n ≤ last
  | table spans, n => Unicode.holds spans n
  | union a b, n => holds a n || holds b n
  | inter a b, n => holds a n && holds b n
  | diff a b, n => holds a n && !holds b n
  | symmDiff a b, n => holds a n != holds b n
  | compl a, n => !holds a n
  | fold a, n => (Unicode.variants n).any (holds a)
  | foldAscii a, n => holds a n || holds a (swapCase n)

/-- The class of a single character. -/
def single (c : Char) : CharClass := range c.toNat c.toNat

/-- Every character. -/
def any : CharClass := range 0 0x10FFFF

/-- The ASCII characters. -/
def ascii : CharClass := range 0 0x7F

/-- The class of all characters in the given ranges. -/
def ofRanges (ranges : List (Nat × Nat)) : CharClass :=
  ranges.foldr (fun r s => union (range r.1 r.2) s) none

@[simp] theorem holds_single (c : Char) (n : Nat) :
    (single c).holds n = decide (n = c.toNat) := by
  simp only [single, holds, ← Bool.decide_and]
  exact decide_eq_decide.2 (by omega)

end CharClass

end UrlMatch.Regex
