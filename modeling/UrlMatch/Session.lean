import UrlMatch.Matcher

/-!
# Sessions

A session works on fields step by step, builds a URL pattern from them and matches with the
pattern that was built last. A step that fails leaves the fields as they are; if it was to build a
pattern, the session is left without one.
-/

namespace UrlMatch

/-- The fields so far, and the pattern that was built last. -/
structure Session where
  fields : Fields
  matcher : Option Matcher

namespace Session

/-- What a session can be asked to do. -/
inductive Step
  | set (c : Component) (value : Text)
  | base (value : Option Text)
  | get (c : Component)
  | reset
  | split (t : Text) (base : Option Text)
  | complete (mode : Mode) (defaults : Components Text)
  | build (ignoreCase : Bool)
  | exec (input : Input) (base : Option Text)
  /-- Matches the fields themselves. -/
  | execSelf

/-- What a session answers. -/
inductive Answer
  | fields (f : Fields)
  | value (t : Option Text)
  | values (v : Components Text)
  | built (m : Matcher)
  /-- Whether the input matches, and its match. -/
  | tested (matched : Bool) (found : Option Match)
  /-- There is no pattern to match with. -/
  | nothing
  | failed (cause : Error)

/-- No fields and no pattern. -/
def initial : Session := ⟨.empty, none⟩

/-- Goes on with other fields. -/
def withFields (s : Session) (f : Fields) : Answer × Session := (.fields f, { s with fields := f })

/-- Matches an input with the pattern that was built last. -/
def tryMatch (s : Session) (input : Input) (base : Option Text) : Answer :=
  match s.matcher with
  | none => .nothing
  | some m => .tested (m.test input base) (m.exec? input base)

/-- Takes one step. -/
def step (s : Session) : Step → Answer × Session
  | .set c value => s.withFields (s.fields.set c value)
  | .base value => s.withFields { s.fields with base := value }
  | .get c => (.value (s.fields.get? c), s)
  | .reset => s.withFields .empty
  | .split t base =>
    match Fields.split t base with
    | .ok f => s.withFields f
    | .error cause => (.failed cause, s)
  | .complete mode defaults =>
    match s.fields.complete mode defaults with
    | .ok v => (.values v, s)
    | .error cause => (.failed cause, s)
  | .build ignoreCase =>
    match Matcher.ofFields s.fields ignoreCase with
    | .ok m => (.built m, { s with matcher := some m })
    | .error cause => (.failed cause, { s with matcher := none })
  | .exec input base => (s.tryMatch input base, s)
  | .execSelf => (s.tryMatch (.fields s.fields) none, s)

/-- Takes steps one after another and collects the answers. -/
def run (s : Session) : List Step → List Answer × Session
  | [] => ([], s)
  | x :: steps =>
    let rest := (s.step x).2.run steps
    ((s.step x).1 :: rest.1, rest.2)

end Session

end UrlMatch
