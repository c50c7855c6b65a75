import UrlMatch.Regex.Program
import UrlMatch.Text

/-!
# Running programs

`Program.find?` looks for the first match of a program: at the earliest position, and there the
one that comes first in the order of the program's forks. It tries one way after the other, and
never the same instruction at the same position twice, for what did not lead to a match the first
time never will. So the time is bounded by the product of the sizes of program and input.
-/

namespace UrlMatch.Regex

/-- A state of the machine, with the slots recorded on the way to it, last first. -/
structure Thread where
  pc : Nat
  pos : Nat
  slots : List (Nat × Nat)
deriving Repr, DecidableEq

/-- The states that have been tried: for each position, the set of addresses as a bit mask. -/
structure Tried where
  masks : Array Nat
deriving Repr

namespace Tried

/-- Nothing has been tried on an input of `n` characters. -/
def empty (n : Nat) : Tried := ⟨Array.replicate (n + 1) 0⟩

/-- Says whether an address has been tried at a position. -/
def has (s : Tried) (pc pos : Nat) : Bool := (s.masks[pos]?.getD 0).testBit pc

/-- Adds an address at a position. -/
def add (s : Tried) (pc pos : Nat) : Tried := ⟨s.masks.modify pos (· ||| 1 <<< pc)⟩

end Tried

/-- The states that follow a state by one instruction, the preferred one first. -/
def Thread.next (input : Array Char) (t : Thread) : Inst → List Thread
  | .char c =>
    match input[t.pos]? with
    | some x => if c.holds x.toNat then [{ t with pc := t.pc + 1, pos := t.pos + 1 }] else []
    | none => []
  | .look l =>
    let before := if t.pos = 0 then none else input[t.pos - 1]?
    if l.holds before input[t.pos]? then [{ t with pc := t.pc + 1 }] else []
  | .save slot => [{ t with pc := t.pc + 1, slots := (slot, t.pos) :: t.slots }]
  | .jump target => [{ t with pc := target }]
  | .fork first second => [{ t with pc := first }, { t with pc := second }]

/-- Tries the states of a stack, each with all that follows from it before the next one. The
search ends at the first state behind the last instruction. -/
def explore (insts : Array Inst) (input : Array Char) :
    (fuel : Nat) → Tried → List Thread → Option Thread × Tried
  | 0, tried, _ => (none, tried)
  | _ + 1, tried, [] => (none, tried)
  | fuel + 1, tried, t :: stack =>
    if tried.has t.pc t.pos then explore insts input fuel tried stack
    else match insts[t.pc]? with
      | none => (some t, tried)
      | some i =>
        explore insts input fuel (tried.add t.pc t.pos) (t.next input i ++ stack)

/-- A bound on the steps of a search: each state is tried once and leaves at most two behind. -/
def fuelFor (insts : Array Inst) (input : Array Char) : Nat :=
  2 * ((insts.size + 1) * (input.size + 1)) + 2

/-- Starts a search at one position after the other. -/
def findFrom (insts : Array Inst) (input : Array Char) (tried : Tried) :
    (start remaining : Nat) → Option Thread
  | start, remaining =>
    match explore insts input (fuelFor insts input) tried [⟨0, start, []⟩] with
    | (some t, _) => some t
    | (none, tried) =>
      match remaining with
      | 0 => none
      | n + 1 => findFrom insts input tried (start + 1) n

/-- A match: the slots recorded on the way to it, last first. -/
structure Found where
  slots : List (Nat × Nat)
deriving Repr, DecidableEq

/-- The first and the last position of a group, if it took part in the match. -/
def Found.span? (m : Found) (group : Nat) : Option (Nat × Nat) := do
  return (← m.slots.lookup (2 * group), ← m.slots.lookup (2 * group + 1))

/-- The text of a group, if it took part in the match. -/
def Found.text? (m : Found) (t : Text) (group : Nat) : Option Text :=
  (m.span? group).map fun s => (t.drop s.1).take (s.2 - s.1)

namespace Program

/-- The first match in a text. -/
def find? (p : Program) (t : Text) : Option Found :=
  let input := t.toArray
  (findFrom p.insts input (.empty input.size) 0 input.size).map fun t => ⟨t.slots⟩

/-- Says whether there is a match in a text. -/
def isMatch (p : Program) (t : Text) : Bool := (p.find? t).isSome

end Program

end UrlMatch.Regex
