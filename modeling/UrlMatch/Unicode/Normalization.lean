import UrlMatch.Text
import UrlMatch.Unicode.DecompositionData
import UrlMatch.Unicode.Table

/-!
# Canonical composition

`compose` brings a text into normalization form C: every character is decomposed, runs of
combining marks are put into the order of their combining classes, and then each mark is merged
with the character that it belongs to where a single character exists for both. Hangul syllables
are decomposed and composed by arithmetic, all else by table.
-/

namespace UrlMatch.Unicode

/-- A code point and its full canonical decomposition. -/
structure Decomposition where
  code : Nat
  parts : List Nat
  /-- Composition may restore the code point. -/
  restored : Bool
deriving Repr

/-- The canonical decompositions, Hangul syllables apart. -/
def decompositions : List Decomposition :=
  (decompositionWords.flatMap (digits 106 3)).filterMap fun e =>
    match digits 21 5 e with
    | 0 :: _ => none
    | code :: parts => some ⟨code, parts.filter (· ≠ 0), e / Nat.pow 2 105 = 1⟩
    | [] => none

/-- The code points whose combining class is not zero, tagged with it. -/
def combiningSpans : List Span := spans combiningClassWords

/-- The canonical combining class. -/
def combiningClass (n : Nat) : Nat := if n < 0x300 then 0 else (tagOf? combiningSpans n).getD 0

/-- The character with a number, NUL if there is none. -/
def charOf (n : Nat) : Char := Char.ofNat n

/-- The full canonical decomposition of a code point. -/
def decompose (n : Nat) : List Nat :=
  if n < 0xC0 then [n]
  else if 0xAC00 ≤ n ∧ n ≤ 0xD7A3 then
    let s := n - 0xAC00
    let last := s % 28
    [0x1100 + s / 588, 0x1161 + s % 588 / 28] ++ if last = 0 then [] else [0x11A7 + last]
  else match decompositions.find? (·.code == n) with
    | some d => d.parts
    | none => [n]

/-- Puts a code point in front, behind the marks that belong before it. -/
def insertMark (n : Nat) : List Nat → List Nat
  | [] => [n]
  | m :: rest =>
    if 0 < combiningClass m ∧ combiningClass m < combiningClass n then m :: insertMark n rest
    else n :: m :: rest

/-- Puts every run of marks into the order of their classes. -/
def reorder (ns : List Nat) : List Nat := ns.foldr insertMark []

/-- The pairs of code points that compose, with their composite. -/
def compositions : List (Nat × Nat × Nat) :=
  (decompositions.filter (·.restored)).filterMap fun d =>
    match d.parts.reverse with
    | last :: [first] => some (first, last, d.code)
    | last :: front =>
      (decompositions.find? fun e => e.restored && e.parts == front.reverse).map fun e =>
        (e.code, last, d.code)
    | [] => none

/-- The composite of two code points, if there is one. -/
def composite? (a b : Nat) : Option Nat :=
  if 0x1100 ≤ a ∧ a ≤ 0x1112 ∧ 0x1161 ≤ b ∧ b ≤ 0x1175 then
    some (0xAC00 + ((a - 0x1100) * 21 + (b - 0x1161)) * 28)
  else if 0xAC00 ≤ a ∧ a ≤ 0xD7A3 ∧ (a - 0xAC00) % 28 = 0 ∧ 0x11A8 ≤ b ∧ b ≤ 0x11C2 then
    some (a + (b - 0x11A7))
  else if b < 0x300 then none
  else (compositions.find? fun c => c.1 == a && c.2.1 == b).map (·.2.2)

/-- Merges the marks behind a starter into it. `marks` are those that were not merged, last
first. -/
def mergeFrom (starter : Nat) (marks : List Nat) : List Nat → List Nat
  | [] => starter :: marks.reverse
  | n :: rest =>
    let blocked := match marks with
      | [] => false
      | m :: _ => combiningClass n ≤ combiningClass m
    match if blocked then none else composite? starter n with
    | some c => mergeFrom c marks rest
    | none =>
      if combiningClass n = 0 then starter :: marks.reverse ++ mergeFrom n [] rest
      else mergeFrom starter (n :: marks) rest

/-- Merges marks into their starters. Marks before the first starter stay. -/
def merge : List Nat → List Nat
  | [] => []
  | n :: rest => if combiningClass n = 0 then mergeFrom n [] rest else n :: merge rest

/-- Normalization form C. -/
def compose (t : Text) : Text :=
  if t.all (·.toNat < 0x300) then t
  else (merge (reorder (t.flatMap fun c => decompose c.toNat))).map charOf

end UrlMatch.Unicode
