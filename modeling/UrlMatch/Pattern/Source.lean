import UrlMatch.Pattern.Options
import UrlMatch.Pattern.Part
import UrlMatch.Regex.Escape

/-!
# The regular expression of a pattern

`source` writes the regular expression that parts stand for. Each capture is written as one group
that records, so the captures of a pattern and the groups of its expression go by the same order
unless the expression of a capture opens or closes more brackets than its own. A repeated capture
with fixed text around it repeats that text between its copies, and its group spans all of them.
-/

namespace UrlMatch.Pattern

/-- A group that records nothing. -/
def plainGroup (r : Text) : Text := ['(', '?', ':'] ++ r ++ [')']

/-- A group that records. -/
def recordingGroup (r : Text) : Text := '(' :: r ++ [')']

/-- The regular expression of a capture; `segment` is the one of a segment. -/
def Capture.source (segment : Text) (c : Capture) : Text :=
  let body := c.kind.regexp segment
  let lead := Regex.escape c.lead
  let trail := Regex.escape c.trail
  if lead = [] ∧ trail = [] then
    match c.modifier with
    | .once => recordingGroup body
    | .optional => recordingGroup body ++ ['?']
    | m => recordingGroup (plainGroup body ++ m.text)
  else if c.modifier.isRepeating then
    let again := plainGroup (trail ++ lead ++ plainGroup body) ++ ['*']
    let whole := plainGroup (lead ++ recordingGroup (plainGroup body ++ again) ++ trail)
    if c.modifier = .zeroOrMore then whole ++ ['?'] else whole
  else plainGroup (lead ++ recordingGroup body ++ trail) ++ c.modifier.text

/-- The regular expression of a part. -/
def Part.source (segment : Text) : Part → Text
  | .fixed value .once => Regex.escape value
  | .fixed value m => plainGroup (Regex.escape value) ++ m.text
  | .capture c => c.source segment

/-- The parts end in fixed text that ends in a delimiter. -/
def endsInDelimiter (delimiters : Text) (parts : List Part) : Bool :=
  match parts.getLast? with
  | some (.fixed value .once) => value.getLast?.any (· ∈ delimiters)
  | _ => false

/-- What stands in front of the parts: the flag that makes case indifferent, and the anchor. -/
def MatchOptions.opening (o : MatchOptions) : Text :=
  (if o.sensitive then [] else ['(', '?', 'i', ')']) ++ (if o.fromStart then ['^'] else [])

/-- What stands behind the parts. A match that need not reach the end of the input ends at a
delimiter. -/
def MatchOptions.closing (o : MatchOptions) (parts : List Part) : Text :=
  match o.toEnd, delimiterClass? o.delimiters with
  | true, some d => if o.strict then ['$'] else d ++ ['?', '$']
  | true, none => ['$']
  | false, some d =>
    if endsInDelimiter o.delimiters parts then [] else plainGroup (d ++ ['|', '$'])
  | false, none => []

/-- The regular expression of a pattern. -/
def source (o : MatchOptions) (parts : List Part) : Text :=
  o.opening ++ parts.flatMap (·.source (segmentRegexp o.delimiters)) ++ o.closing parts

end UrlMatch.Pattern
