import UrlMatch.Pattern.Item
import UrlMatch.Pattern.Lexer
import UrlMatch.Pattern.Options

/-!
# Reading patterns

`parse` turns a text into parts. Its lexemes are grouped into items (`Reading.ofLexemes`), and
`Parts.ofItems` walks over them: neighbouring characters gather into one fixed text, a capture may
take along the character before it, captures without a name are numbered, and each fixed text is
brought into its canonical form as soon as it is complete.
-/

namespace UrlMatch.Pattern

/-- Brings a text into its canonical form. The empty text is its own. -/
def ReadOptions.canonical (o : ReadOptions) (value : Text) : Except Error Text :=
  if value = [] then .ok []
  else match o.encode value with
    | .ok r => .ok r
    | .error cause => .error (.encoding value cause)

/-- The fixed text that has gathered, as a part unless it is empty. -/
def gathered (o : ReadOptions) (pending : Text) : Except Error (List Part) :=
  if pending = [] then .ok []
  else do return [.fixed (← o.canonical pending) .once]

/-- The names given so far, and how many captures have none. -/
structure Naming where
  used : List Text
  ordinals : Nat
deriving Repr, DecidableEq

/-- No name is given yet. -/
def Naming.empty : Naming := ⟨[], 0⟩

/-- Gives the next capture its name, or its number if it has no name. -/
def Naming.assign (n : Naming) : Option Text → Except Error (CaptureName × Naming)
  | none => .ok (.ordinal n.ordinals, { n with ordinals := n.ordinals + 1 })
  | some name =>
    if name ∈ n.used then .error (.duplicateName name)
    else .ok (.named name, { n with used := name :: n.used })

/-- The capture of a core between two fixed texts. -/
def captureOf (o : ReadOptions) (names : Naming) (lead : Text) (core : Core) (trail : Text)
    (m : Modifier) : Except Error (Part × Naming) := do
  let (name, names) ← names.assign core.name?
  let kind := match core.regexp? with
    | none => .segment
    | some r => .classify r (segmentRegexp o.delimiters)
  let lead ← o.canonical lead
  let trail ← o.canonical trail
  return (.capture { name, lead, trail, kind, modifier := m }, names)

/-- Puts what has gathered and one capture in front of the parts that follow. -/
def thenCapture (o : ReadOptions) (pending : Text) (names : Naming) (lead : Text) (core : Core)
    (trail : Text) (m : Modifier) (behind : Naming → Except Error (List Part)) :
    Except Error (List Part) := do
  let before ← gathered o pending
  let (part, names) ← captureOf o names lead core trail m
  return before ++ part :: (← behind names)

/-- The parts that items stand for, where `pending` has gathered before them. -/
def partsOf (o : ReadOptions) (ending : Ending) (pending : Text) (names : Naming) :
    List Item → Except Error (List Part)
  | [] =>
    match ending with
    | .complete => gathered o pending
    | .stray i found => do
      let _ ← gathered o pending
      .error (.unexpected i found .finish)
    | .unclosed i found => .error (.unexpected i found .closing)
  | .plain value :: .bare core m :: items =>
    if o.isLead value then
      thenCapture o pending names value core [] m fun names => partsOf o ending [] names items
    else
      thenCapture o (pending ++ value) names [] core [] m fun names =>
        partsOf o ending [] names items
  | .plain value :: items => partsOf o ending (pending ++ value) names items
  | .escaped value :: items => partsOf o ending (pending ++ value) names items
  | .bare core m :: items =>
    thenCapture o pending names [] core [] m fun names => partsOf o ending [] names items
  | .textGroup value m :: items =>
    if m = .once then partsOf o ending (pending ++ value) names items
    else if value = [] then partsOf o ending pending names items
    else do
      let before ← gathered o pending
      let value ← o.canonical value
      return before ++ .fixed value m :: (← partsOf o ending [] names items)
  | .group lead core trail m :: items =>
    thenCapture o pending names lead core trail m fun names => partsOf o ending [] names items

/-- The parts of a pattern. -/
def parse (o : ReadOptions) (t : Text) : Except Error (List Part) := do
  let reading := Reading.ofLexemes (← lex .strict t)
  partsOf o reading.ending [] .empty reading.items

end UrlMatch.Pattern
