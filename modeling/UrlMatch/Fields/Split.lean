import UrlMatch.Component.Pattern
import UrlMatch.Fields.Basic

/-!
# Splitting a pattern into its fields

`Fields.split` cuts a pattern for whole URLs, such as `https://*.example.com/:id`, into patterns for
its components. A cursor walks over the lexemes, hiding what stands between braces. At a sign that
separates two components it writes the lexemes gathered since the last one into the component it
was in, and goes on in the next. Whether a component begins at the start of the text is known only
when its end is found, so the cursor may go back to where it began to gather; whenever it does, it
is in a later state.
-/

namespace UrlMatch.Fields

open Pattern (Lexeme LexemeKind)

/-- What the cursor is looking at. -/
inductive State
  | start
  | protocol
  | authority
  | username
  | password
  | hostname
  | port
  | pathname
  | search
  | hash
  | done
deriving Repr, DecidableEq

namespace State

/-- States are only left for states of a higher rank. -/
def rank : State → Nat
  | start => 0
  | protocol => 1
  | authority => 2
  | username => 3
  | password => 4
  | hostname => 5
  | port => 6
  | pathname => 7
  | search => 8
  | hash => 9
  | done => 10

/-- The component that is gathered. -/
def component? : State → Option Component
  | protocol => some .protocol
  | username => some .username
  | password => some .password
  | hostname => some .hostname
  | port => some .port
  | pathname => some .pathname
  | search => some .search
  | hash => some .hash
  | start | authority | done => none

/-- The host is still to come. -/
def precedesHost (s : State) : Bool := s ∈ [protocol, authority, username, password]

end State

/-- A place in the list of lexemes, and what is known there. -/
structure Cursor where
  state : State
  /-- The protocol matches a special scheme. -/
  special : Bool
  /-- The number of open braces. -/
  depth : Nat
  /-- The number of open brackets of the host. -/
  brackets : Nat
  /-- The lexemes in front of those that are gathered, last first. -/
  before : List Lexeme
  /-- The lexemes that are gathered, last first. -/
  gathered : List Lexeme
  rest : List Lexeme
  values : Components (Option Text)

namespace Cursor

/-- At the first of the lexemes. -/
def initial (ls : List Lexeme) : Cursor where
  state := .start
  special := false
  depth := 0
  brackets := 0
  before := []
  gathered := []
  rest := ls
  values := .replicate none

/-- The text that is gathered. -/
def text (c : Cursor) : Text := c.gathered.reverse.flatMap Lexeme.written

/-- Gathers one lexeme. -/
def advance (c : Cursor) : Cursor :=
  match c.rest with
  | [] => c
  | l :: rest => { c with gathered := l :: c.gathered, rest }

/-- Goes back to where gathering began, in another state. -/
def rewind (c : Cursor) (state : State) : Cursor :=
  { c with state, gathered := [], rest := c.gathered.reverse ++ c.rest }

/-- The lexeme is a character that stands for itself, and it is `ch`. -/
def isSign (ch : Char) (l : Lexeme) : Bool :=
  l.value == [ch] && (l.kind == .char || l.kind == .escapedChar || l.kind == .invalid)

/-- The next lexeme is the given sign. -/
def sees (c : Cursor) (ch : Char) : Bool := c.rest.head?.any (isSign ch)

/-- Two slashes follow the next lexeme. -/
def seesSlashes (c : Cursor) : Bool :=
  match c.rest with
  | _ :: a :: b :: _ => isSign '/' a && isSign '/' b
  | _ => false

/-- The next lexeme is a question mark that is no modifier of what precedes it. -/
def seesQuery (c : Cursor) : Bool :=
  c.sees '?' ||
    c.rest.head?.any (·.value == ['?']) &&
      (c.gathered ++ c.before).head?.all fun l => l.kind ∉ [.name, .regexp, .closing, .asterisk]

/-- The components that are implied when the cursor goes from one state to another: a host that is
empty, the path of a special scheme, a query that is empty. -/
def implied (c : Cursor) (next : State) (values : Components (Option Text)) :
    Components (Option Text) :=
  let beforePort := c.state.precedesHost || c.state == .hostname
  let fill (when : Bool) (comp : Component) (value : Text) (vs : Components (Option Text)) :=
    if when && (vs.get comp).isNone then vs.set comp (some value) else vs
  let values := fill (c.state.precedesHost && next ∈ [.port, .pathname, .search, .hash])
    .hostname [] values
  let values := fill ((beforePort || c.state == .port) && next ∈ [.search, .hash])
    .pathname (if c.special then ['/'] else []) values
  fill ((beforePort || c.state ∈ [.port, .pathname]) && next == .hash) .search [] values

/-- Writes what is gathered, skips `skip` lexemes and goes on in another state. -/
def enter (c : Cursor) (next : State) (skip : Nat) : Cursor :=
  let values := match c.state.component? with
    | some comp => c.values.set comp (some c.text)
    | none => c.values
  { c with
    state := next
    before := (c.rest.take skip).reverse ++ c.gathered ++ c.before
    gathered := []
    rest := c.rest.drop skip
    values := if c.state = .start ∨ next = .done then values else c.implied next values }

/-- The cursor, knowing whether the protocol it has gathered matches a special scheme. -/
def judgeProtocol (c : Cursor) : Except Error Cursor := do
  let p ← ComponentPattern.ofText .protocol false false c.text
  return { c with special := p.matchesSpecialScheme }

/-- Enters the state of a query or a fragment at its sign; else does as told. -/
def enterTail (c : Cursor) (otherwise : Cursor) : Cursor :=
  if c.seesQuery then c.enter .search 1
  else if c.sees '#' then c.enter .hash 1
  else otherwise

/-- Enters the state of a path, a query or a fragment at its sign; else does as told. -/
def enterPath (c : Cursor) (otherwise : Cursor) : Cursor :=
  if c.sees '/' then c.enter .pathname 0 else c.enterTail otherwise

/-- Looks at a lexeme outside of braces. -/
def look (c : Cursor) : Except Error Cursor :=
  match c.state with
  | .start => .ok (if c.sees ':' then c.rewind .protocol else c.advance)
  | .protocol =>
    if c.sees ':' then do
      let c ← c.judgeProtocol
      return if c.seesSlashes then c.enter .authority 3
        else if c.special then c.enter .authority 1
        else c.enter .pathname 1
    else .ok c.advance
  | .authority => .ok <|
    if c.sees '@' then c.rewind .username
    else if c.sees '/' || c.seesQuery || c.sees '#' then c.rewind .hostname
    else c.advance
  | .username => .ok <|
    if c.sees ':' then c.enter .password 1
    else if c.sees '@' then c.enter .hostname 1
    else c.advance
  | .password => .ok (if c.sees '@' then c.enter .hostname 1 else c.advance)
  | .hostname => .ok <|
    if c.sees '[' then { c with brackets := c.brackets + 1 }.advance
    else if c.sees ']' then { c with brackets := c.brackets - 1 }.advance
    else if c.sees ':' && c.brackets == 0 then c.enter .port 1
    else c.enterPath c.advance
  | .port => .ok (c.enterPath c.advance)
  | .pathname => .ok (c.enterTail c.advance)
  | .search => .ok (if c.sees '#' then c.enter .hash 1 else c.advance)
  | .hash | .done => .ok c.advance

/-- Looks at the end of the text. Without a protocol the text is a path, a query or a fragment. -/
def atEnd (c : Cursor) : Cursor :=
  match c.state with
  | .start =>
    let c := c.rewind .start
    if c.sees '#' then c.enter .hash 1
    else if c.seesQuery then c.enter .search 1
    else c.enter .pathname 0
  | .authority => c.rewind .hostname
  | _ => c.enter .done 0

/-- Looks at the next lexeme. -/
def step (c : Cursor) : Except Error Cursor :=
  match c.rest with
  | [] => .ok { c with state := .done }
  | l :: _ =>
    if l.kind = .finish then .ok c.atEnd
    else if l.kind = .opening then .ok { c with depth := c.depth + 1 }.advance
    else if c.depth = 0 then c.look
    else if l.kind = .closing then .ok { c with depth := c.depth - 1 }.advance
    else .ok c.advance

/-- Goes on until the cursor is done, for at most `fuel` steps. -/
def run : (fuel : Nat) → Cursor → Except Error Cursor
  | 0, c => .ok c
  | fuel + 1, c => if c.state = .done then .ok c else do run fuel (← c.step)

/-- A bound on the steps over `n` lexemes: each is gathered at most twice, and there are ten states
to go to. -/
def fuelFor (n : Nat) : Nat := 2 * n + 10

/-- A host without a port has the port of its scheme. -/
def result (c : Cursor) : Components (Option Text) :=
  if c.values.hostname.isSome ∧ c.values.port.isNone then { c.values with port := some [] }
  else c.values

end Cursor

/-- The components of a pattern for whole URLs. -/
def splitText (t : Text) : Except Error (Components (Option Text)) := do
  match Pattern.lex .lenient t with
  | .error _ => return .replicate none
  | .ok ls => return (← (Cursor.initial ls).run (Cursor.fuelFor ls.length)).result

/-- Splits a pattern for whole URLs into its fields. One without a scheme needs a base. -/
def split (t : Text) (base : Option Text) : Except Error Fields := do
  let values ← splitText t
  if values.protocol.isNone ∧ base.isNone then throw (.relativeWithoutBase t)
  return ⟨values, base⟩

end UrlMatch.Fields
