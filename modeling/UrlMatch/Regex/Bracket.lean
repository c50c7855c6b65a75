import UrlMatch.Regex.Escape

/-!
# Classes in brackets

Reads a class written in brackets: characters, ranges and named classes, which form a union, sets
nested in brackets of their own, and the operators `&&`, `--` and `~~` on what stands on their two
sides. Operators apply from left to right.

The reader keeps a stack: `Pending.inside` is an open bracket with the union that it is nested in,
`Pending.operator` an operator that waits for its right side.
-/

namespace UrlMatch.Regex.Bracket

/-- An operation on two classes. -/
inductive Operator
  | inter
  | diff
  | symmDiff
deriving Repr, DecidableEq

/-- The class that an operation gives. -/
def Operator.apply : Operator → CharClass → CharClass → CharClass
  | inter => .inter
  | diff => .diff
  | symmDiff => .symmDiff

/-- What waits for the end of a union. -/
inductive Pending
  | inside (negated : Bool) (outer : CharClass)
  | operator (o : Operator) (left : CharClass)
deriving Repr, DecidableEq

/-- A class that is being read. -/
structure State where
  stack : List Pending
  /-- The union of the items since the last bracket or operator. -/
  union : CharClass
deriving Repr, DecidableEq

/-- Adds an item to the union. -/
def State.add (s : State) (c : CharClass) : State := { s with union := .union s.union c }

/-- Reads the hyphens at the start of a class, which stand for themselves. -/
def takeHyphens (f : Flags) (s : State) : Text → State × Text
  | '-' :: rest => takeHyphens f (s.add (.single '-')) (f.skip rest)
  | t => (s, t)
termination_by t => t.length
decreasing_by
  have := f.length_skip_le rest
  simp only [List.length_cons]
  omega

/-- Reads what may stand behind an opening bracket only: the sign of a complement, hyphens, and a
closing bracket that stands for itself. -/
def openBracket (f : Flags) (s : State) (t : Text) : Option (State × Text) :=
  let t := f.skip t
  let (negated, t) := match t with
    | '^' :: rest => (true, f.skip rest)
    | _ => (false, t)
  let inner : State := ⟨.inside negated s.union :: s.stack, .none⟩
  match takeHyphens f inner t with
  | (_, []) => none
  | (inner, ']' :: rest) =>
    if t.head? = some '-' then some (inner, ']' :: rest)
    else match f.skip rest with
      | [] => none
      | behind => some (inner.add (.single ']'), behind)
  | (inner, t) => some (inner, t)

/-- Reads the name of an ASCII class behind a bracket. Without such a name the bracket opens a
nested class. -/
def asciiClass? (f : Flags) (t : Text) : Option (Option CharClass × Text) :=
  match t with
  | ':' :: rest =>
    let (negated, rest) := match rest with
      | '^' :: r => (true, r)
      | r => (false, r)
    let name := rest.takeWhile (· ≠ ':')
    match rest.drop name.length with
    | ':' :: ']' :: behind =>
      (CharClass.ofAsciiName? name).map fun c => (f.close? negated c, behind)
    | _ => none
  | _ => none

/-- Applies the operator that waits for its right side, if one does. -/
def applyPending (f : Flags) (stack : List Pending) (right : CharClass) :
    CharClass × List Pending :=
  match stack with
  | .operator o left :: stack => (o.apply (f.fold left) (f.fold right), stack)
  | _ => (right, stack)

/-- The character behind the first one, where blanks and comments may be ignored. -/
def peek (f : Flags) (rest : Text) : Option Char := (f.skip rest).head?

/-- A single item: an escape or a character. -/
def readItem (f : Flags) : Text → Option (Escape × Text)
  | [] => none
  | '\\' :: rest => Escape.read f rest
  | c :: rest => some (.literal c false, rest)

/-- The class from one character to another. -/
def range? (f : Flags) (a b : Escape) : Option CharClass :=
  match a, b with
  | .literal x _, .literal y _ => do
    let _ ← a.class? f
    let _ ← b.class? f
    if x ≤ y then return .range x.toNat y.toNat else none
  | _, _ => none

/-- Reads an item or a range of two of them. -/
def readRange (f : Flags) (t : Text) : Option (CharClass × Text) := do
  let (a, t) ← readItem f t
  match f.skip t with
  | [] => none
  | '-' :: rest =>
    match peek f rest with
    | some ']' | some '-' => return (← a.class? f, '-' :: rest)
    | none => none
    | some _ =>
      let (b, behind) ← readItem f (f.skip rest)
      return (← range? f a b, behind)
  | behind => return (← a.class? f, behind)

/-- What reading an element of a class leads to. -/
inductive Step
  | more (s : State) (t : Text)
  /-- The outermost bracket is closed. -/
  | closed (c : CharClass) (t : Text)

/-- Closes a bracket. -/
def close (f : Flags) (s : State) (rest : Text) : Option Step :=
  match applyPending f s.stack s.union with
  | (c, .inside negated outer :: stack) => do
    let c ← f.close? negated c
    if stack = [] then return .closed c rest else return .more ⟨stack, .union outer c⟩ rest
  | _ => none

/-- Starts the right side of an operator. -/
def operate (f : Flags) (s : State) (o : Operator) (rest : Text) : Step :=
  let (left, stack) := applyPending f s.stack s.union
  .more ⟨.operator o left :: stack, .none⟩ rest

/-- Reads one element of a class. -/
def step (f : Flags) (s : State) (t : Text) : Option Step :=
  match t with
  | [] => none
  | '[' :: rest =>
    match asciiClass? f rest with
    | some (c, behind) => c.map fun c => .more (s.add c) behind
    | none => (openBracket f s rest).map fun r => .more r.1 r.2
  | ']' :: rest => close f s rest
  | '&' :: '&' :: rest => some (operate f s .inter rest)
  | '-' :: '-' :: rest => some (operate f s .diff rest)
  | '~' :: '~' :: rest => some (operate f s .symmDiff rest)
  | t => (readRange f t).map fun r => .more (s.add r.1) r.2

/-- Reads the elements of a class up to the bracket that closes it. -/
def run (f : Flags) (s : State) (t : Text) : Option (CharClass × Text) :=
  match step f s (f.skip t) with
  | none => none
  | some (.closed c rest) => some (c, rest)
  | some (.more s rest) => if rest.length < t.length then run f s rest else none
termination_by t.length

/-- Reads a class behind its opening bracket. -/
def read (f : Flags) (t : Text) : Option (CharClass × Text) := do
  let (s, rest) ← openBracket f ⟨[], .none⟩ t
  run f s rest

end UrlMatch.Regex.Bracket
