import UrlMatch.Regex.Basic

/-!
# Programs of regular expressions

An expression becomes a list of instructions for a machine that stands at a position of the input
and at an instruction. `code r pc` is the code of `r` placed at the address `pc`; the machine runs
from there to the address behind it, `pc + size r`, exactly on the ways in which `r` matches. A
fork names the address to be tried first.
-/

namespace UrlMatch.Regex

/-- An instruction. -/
inductive Inst
  /-- Passes one character of a class. -/
  | char (c : CharClass)
  /-- Goes on if the look holds. -/
  | look (l : Look)
  /-- Records the position in a slot. -/
  | save (slot : Nat)
  | jump (target : Nat)
  /-- Goes on at the first address or, failing that, at the second. -/
  | fork (first second : Nat)
deriving Repr, DecidableEq, Inhabited

/-- A fork between the body of a repetition and its exit. -/
def Inst.again (greedy : Bool) (body exit : Nat) : Inst :=
  if greedy then fork body exit else fork exit body

/-- The number of instructions of an expression. -/
def size : Regex → Nat
  | .empty => 0
  | .one _ => 1
  | .look _ => 1
  | .group _ r => size r + 2
  | .seq a b => size a + size b
  | .alt a b => size a + size b + 2
  | .repeated r 0 none _ => size r + 2
  | .repeated r (n + 1) none _ => n * size r + size r + 1
  | .repeated r least (some most) _ => least * size r + (most - least) * (size r + 1)

/-- Code repeated `n` times, each copy `step` addresses behind the one before it. -/
def copies (code : Nat → List Inst) (step n pc : Nat) : List Inst :=
  (List.range n).flatMap fun k => code (pc + k * step)

/-- The code of an expression at the address `pc`. -/
def code : Regex → (pc : Nat) → List Inst
  | .empty, _ => []
  | .one c, _ => [.char c]
  | .look l, _ => [.look l]
  | .group i r, pc => .save (2 * i) :: code r (pc + 1) ++ [.save (2 * i + 1)]
  | .seq a b, pc => code a pc ++ code b (pc + size a)
  | .alt a b, pc =>
    .fork (pc + 1) (pc + size a + 2) :: code a (pc + 1) ++
      .jump (pc + size a + size b + 2) :: code b (pc + size a + 2)
  | .repeated r 0 none greedy, pc =>
    let exit := pc + size r + 2
    .again greedy (pc + 1) exit :: code r (pc + 1) ++ [.again greedy (pc + 1) exit]
  | .repeated r (n + 1) none greedy, pc =>
    let last := pc + n * size r
    copies (code r) (size r) n pc ++ code r last ++ [.again greedy last (last + size r + 1)]
  | .repeated r least (some most) greedy, pc =>
    let first := pc + least * size r
    let exit := first + (most - least) * (size r + 1)
    copies (code r) (size r) least pc ++
      copies (fun pc => .again greedy (pc + 1) exit :: code r (pc + 1)) (size r + 1)
        (most - least) first

/-- The number of groups that code records, the whole match included. -/
def groupCount (insts : List Inst) : Nat :=
  insts.foldl (fun n i => match i with
    | .save slot => max n (slot / 2 + 1)
    | _ => n) 1

/-- A program ready to run. -/
structure Program where
  insts : Array Inst
  /-- The number of groups, the whole match included. -/
  groups : Nat
deriving Repr

/-- The program of an expression; its whole match is group 0. -/
def program (r : Regex) : Program :=
  let insts := code (.group 0 r) 0
  ⟨insts.toArray, groupCount insts⟩

end UrlMatch.Regex
