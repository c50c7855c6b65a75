/-!
# Tables of code points

A table is a list of spans in increasing order, each a run of consecutive code points with a tag
that says what the run has in common. Tables are stored packed into numerals: a span takes 50 bits
(the gap since the span before it, its length, its tag) and six spans one numeral.
-/

namespace UrlMatch.Unicode

/-- The `count` lowest digits of `w` in base `2 ^ width`, lowest first. -/
def digits (width : Nat) : (count w : Nat) → List Nat
  | 0, _ => []
  | n + 1, w => w % Nat.pow 2 width :: digits width n (w / Nat.pow 2 width)

/-- Consecutive code points that share a tag. -/
structure Span where
  first : Nat
  last : Nat
  tag : Nat
deriving Repr, DecidableEq

/-- Says whether the span holds the code point `n`. -/
def Span.has (s : Span) (n : Nat) : Bool := s.first ≤ n && n ≤ s.last

/-- Lays out packed spans from the code point `start` on. A zero is padding. -/
def layOut (start : Nat) : List Nat → List Span
  | [] => []
  | e :: rest =>
    let first := start + e % Nat.pow 2 21
    let size := e / Nat.pow 2 21 % Nat.pow 2 21
    if size = 0 then layOut start rest
    else ⟨first, first + size - 1, e / Nat.pow 2 42⟩ :: layOut (first + size) rest

/-- The table that numerals pack. -/
def spans (words : List Nat) : List Span := layOut 0 (words.flatMap (digits 50 6))

/-- Says whether a table has the code point `n`. -/
def holds (table : List Span) (n : Nat) : Bool := table.any (·.has n)

/-- The tag of the code point `n`, if the table has it. -/
def tagOf? (table : List Span) (n : Nat) : Option Nat := (table.find? (·.has n)).map (·.tag)

/-- The spans with one tag. -/
def withTag (table : List Span) (tag : Nat) : List Span := table.filter (·.tag == tag)

end UrlMatch.Unicode
