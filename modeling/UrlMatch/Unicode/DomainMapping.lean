import UrlMatch.Text
import UrlMatch.Unicode.DomainData
import UrlMatch.Unicode.Table

/-!
# Characters of domain names

What a domain name makes of a character: it keeps it, drops it, replaces it by others that mean
the same, or refuses it.
-/

namespace UrlMatch.Unicode

/-- Code points at regular steps, with images at regular steps. -/
structure MappingRun where
  first : Nat
  count : Nat
  step : Nat
  imageStep : Nat
  image : Nat
deriving Repr

/-- The code points that a domain name replaces by one other. -/
def domainRuns : List MappingRun :=
  (domainRunWords.flatMap (digits 58 5)).filterMap fun e =>
    if e = 0 then none
    else some ⟨e % Nat.pow 2 21, e / Nat.pow 2 21 % Nat.pow 2 12, e / Nat.pow 2 33 % 4,
      e / Nat.pow 2 35 % 4, e / Nat.pow 2 37⟩

/-- Reads a stream of images: a code point, the number of its images, the images. -/
def sequencesOf : List Nat → List (Nat × List Nat)
  | code :: count :: rest =>
    if code = 0 then [] else (code, rest.take count) :: sequencesOf (rest.drop count)
  | _ => []
termination_by ns => ns.length
decreasing_by simp only [List.length_cons, List.length_drop]; omega

/-- The code points that a domain name replaces by several others. -/
def domainSequences : List (Nat × List Nat) :=
  sequencesOf (domainSequenceWords.flatMap (digits 21 14))

/-- The code points that a domain name may hold. -/
def domainValidSpans : List Span := spans domainValidWords

/-- The code points that a domain name drops. -/
def domainIgnoredSpans : List Span := spans domainIgnoredWords

/-- The image of a code point in a run. -/
def MappingRun.image? (r : MappingRun) (n : Nat) : Option Nat :=
  let k := (n - r.first) / r.step
  if r.first ≤ n ∧ (n - r.first) % r.step = 0 ∧ k < r.count then some (r.image + k * r.imageStep)
  else none

/-- The character is kept as it is. -/
def isDomainValid (c : Char) : Bool :=
  if c.toNat < 128 then !c.isUpper else holds domainValidSpans c.toNat

/-- What a domain name makes of a character, unless it refuses it. -/
def mapDomain? (c : Char) : Option Text :=
  if c.toNat < 128 then some [c.toLower]
  else if holds domainValidSpans c.toNat then some [c]
  else if holds domainIgnoredSpans c.toNat then some []
  else match domainRuns.findSome? (·.image? c.toNat) with
    | some n => some [Char.ofNat n]
    | none => (domainSequences.lookup c.toNat).map fun ns => ns.map Char.ofNat

end UrlMatch.Unicode
