import UrlMatch.Regex.Bracket

/-!
# Reading regular expressions

`parse?` reads an expression, or refuses it. The reader walks over the text once and keeps what it
has read of each open group: finished alternatives, and the items of the current one. Groups that
record are numbered from 1 in the order of their opening parentheses.
-/

namespace UrlMatch.Regex

/-- A group that is open, seen from inside: what to go on with when it closes. -/
structure Frame where
  /-- The number of the group, if it records. -/
  index : Option Nat
  flags : Flags
  alternatives : List Regex
  items : List (Option Regex)
deriving Repr, DecidableEq

/-- An expression that is being read. -/
structure Reader where
  flags : Flags
  /-- The finished alternatives of the current group, last first. -/
  alternatives : List Regex
  /-- The items of the current alternative, last first. Flags that are set between them are an
  item without an expression. -/
  items : List (Option Regex)
  outer : List Frame
  /-- The number of groups so far that record. -/
  groups : Nat
  names : List Text
deriving Repr, DecidableEq

namespace Reader

/-- Nothing is read yet. -/
def initial : Reader := ⟨.initial, [], [], [], 0, []⟩

/-- Adds an item. -/
def push (s : Reader) (r : Regex) : Reader := { s with items := some r :: s.items }

/-- The expression of the current group, were it to end here. -/
def current (s : Reader) : Regex :=
  choice ((sequence (s.items.reverse.filterMap id) :: s.alternatives).reverse)

/-- Opens a group. -/
def openGroup (s : Reader) (index : Option Nat) (flags : Flags) : Reader :=
  { s with
    flags
    alternatives := []
    items := []
    outer := ⟨index, s.flags, s.alternatives, s.items⟩ :: s.outer }

/-- Opens a group that records. -/
def openCapture (s : Reader) : Reader :=
  { s.openGroup (some (s.groups + 1)) s.flags with groups := s.groups + 1 }

/-- Closes a group, if one is open. -/
def closeGroup? (s : Reader) : Option Reader :=
  match s.outer with
  | [] => none
  | frame :: outer =>
    let r := match frame.index with
      | some i => .group i s.current
      | none => s.current
    some { s with
      flags := frame.flags
      alternatives := frame.alternatives
      items := some r :: frame.items
      outer }

/-- Starts the next alternative. -/
def nextAlternative (s : Reader) : Reader :=
  { s with
    alternatives := sequence (s.items.reverse.filterMap id) :: s.alternatives
    items := [] }

/-- Repeats the last item, if there is one. -/
def repeatLast? (s : Reader) (least : Nat) (most : Option Nat) (greedy : Bool) : Option Reader :=
  match s.items with
  | some r :: items =>
    some { s with items := some (.repeated r least most (greedy != s.flags.swapGreed)) :: items }
  | _ => none

end Reader

/-- Reads flags up to a colon or a closing parenthesis. `seen` holds the letters so far, and
`negative` says that a hyphen is among them. -/
def readFlags (seen : List Char) (negative : Bool) (f : Flags) :
    Text → Option (Flags × List Char × Char × Text)
  | [] => none
  | c :: rest =>
    if c = ':' ∨ c = ')' then
      if seen.head? = some '-' then none else some (f, seen, c, rest)
    else if c ∈ seen then none
    else if c = '-' then readFlags ('-' :: seen) true f rest
    else match f.update? (!negative) c with
      | none => none
      | some f => readFlags (c :: seen) negative f rest

/-- A character of the name of a group. -/
def isGroupNamePart (first : Bool) (c : Char) : Bool :=
  c == '_' ||
  if first then Unicode.isAlphabetic c
  else c == '.' || c == '[' || c == ']' || Unicode.isAlphanumeric c

/-- Reads the name of a group, up to the angle that closes it. -/
def readGroupName (t : Text) : Option (Text × Text) :=
  let name := t.takeWhile (· ≠ '>')
  match name, t.drop name.length with
  | first :: more, '>' :: rest =>
    if isGroupNamePart true first && more.all (isGroupNamePart false) then some (name, rest)
    else none
  | _, _ => none

/-- Opens a group that records under a name. -/
def openNamed (s : Reader) (t : Text) : Option (Reader × Text) := do
  let (name, rest) ← readGroupName t
  if name ∈ s.names then none
  else return ({ s.openCapture with names := name :: s.names }, rest)

/-- Reads what stands behind an opening parenthesis: the kind of the group or, instead of a group,
flags for the rest of the group around them. -/
def readGroup (s : Reader) (t : Text) : Option (Reader × Text) :=
  match s.flags.skip t with
  | '?' :: '=' :: _ => none
  | '?' :: '!' :: _ => none
  | '?' :: '<' :: '=' :: _ => none
  | '?' :: '<' :: '!' :: _ => none
  | '?' :: 'P' :: '<' :: rest => openNamed s rest
  | '?' :: '<' :: rest => openNamed s rest
  | '?' :: rest => do
    let (flags, seen, last, behind) ← readFlags [] false s.flags rest
    if last = ':' then return (s.openGroup none flags, behind)
    else if seen = [] then none
    else return ({ s with flags, items := none :: s.items }, behind)
  | t => some (s.openCapture, t)

/-- Says whether the character marks a repetition as the less usual one, and what is left. -/
def takeLazy (t : Text) : Bool × Text :=
  match t with
  | '?' :: rest => (true, rest)
  | t => (false, t)

/-- Reads a number below `2 ^ 32`, with blanks around it. -/
def readDecimal (f : Flags) (t : Text) : Option (Nat × Text) :=
  digits [] (t.dropWhile Unicode.isBlank)
where
  /-- Reads digits; those so far are last first. -/
  digits (sofar : List Nat) : Text → Option (Nat × Text)
    | [] => finish sofar []
    | c :: rest =>
      if c.isDigit then digits ((c.toNat - '0'.toNat) :: sofar) (f.skip rest)
      else finish sofar (c :: rest)
  termination_by t => t.length
  decreasing_by
    have := f.length_skip_le rest
    simp only [List.length_cons]
    omega
  /-- The number that the digits stand for. -/
  finish (sofar : List Nat) (t : Text) : Option (Nat × Text) :=
    let value := digitsValue 10 sofar.reverse
    if sofar = [] ∨ Nat.pow 2 32 ≤ value then none else some (value, t.dropWhile Unicode.isBlank)

/-- Reads the bounds of a repetition up to the closing brace. -/
def readBounds (f : Flags) (t : Text) : Option (Nat × Option Nat × Text) := do
  let (least, t) ← readDecimal f (f.skip t)
  match t with
  | '\x7d' :: rest => return (least, some least, rest)
  | ',' :: rest =>
    match f.skip rest with
    | '\x7d' :: rest => return (least, none, rest)
    | t =>
      let (most, t) ← readDecimal f t
      match t with
      | '\x7d' :: rest => if least ≤ most then return (least, some most, rest) else none
      | _ => none
  | _ => none

/-- Repeats the last item as a one-letter operator says. -/
def readRepetition (s : Reader) (least : Nat) (most : Option Nat) (rest : Text) :
    Option (Reader × Text) := do
  let (isLazy, rest) := takeLazy rest
  return (← s.repeatLast? least most !isLazy, rest)

/-- Reads one element of an expression. -/
def step (s : Reader) (t : Text) : Option (Reader × Text) :=
  match t with
  | [] => none
  | '(' :: rest => readGroup s rest
  | ')' :: rest => s.closeGroup?.map (·, rest)
  | '|' :: rest => some (s.nextAlternative, rest)
  | '[' :: rest => (Bracket.read s.flags rest).map fun r => (s.push (.one r.1), r.2)
  | '?' :: rest => readRepetition s 0 (some 1) rest
  | '*' :: rest => readRepetition s 0 none rest
  | '+' :: rest => readRepetition s 1 none rest
  | '\x7b' :: rest => do
    let (least, most, rest) ← readBounds s.flags rest
    readRepetition s least most (s.flags.skip rest)
  | '\\' :: rest => do
    let (e, rest) ← Escape.read s.flags rest
    return (s.push (← e.regex? s.flags), rest)
  | '.' :: rest => s.flags.dot?.map fun r => (s.push r, rest)
  | '^' :: rest => some (s.push (.look s.flags.start), rest)
  | '$' :: rest => some (s.push (.look s.flags.finish), rest)
  | c :: rest => (s.flags.literal? c false).map fun r => (s.push r, rest)

/-- Reads an expression to its end. -/
def Reader.run (s : Reader) (t : Text) : Option Reader :=
  match s.flags.skip t with
  | [] => some s
  | c :: rest =>
    match step s (c :: rest) with
    | none => none
    | some (s, behind) => if behind.length < t.length then s.run behind else none
termination_by t.length

/-- Reads an expression. -/
def parse? (t : Text) : Option Regex :=
  match Reader.initial.run t with
  | some s => if s.outer = [] then some s.current else none
  | none => none

end UrlMatch.Regex
