import UrlMatch.Unicode.CaseData
import UrlMatch.Unicode.Table

/-!
# Simple case folding

Two code points that fold to the same one are variants of each other. `variants n` lists all
variants of `n`, itself included.
-/

namespace UrlMatch.Unicode

/-- The classes of code points that differ only in case. -/
def caseOrbits : List (List Nat) :=
  (caseOrbitWords.flatMap (digits 84 4)).map fun o => (digits 21 4 o).filter (· ≠ 0)

/-- The code points that differ from `n` only in case, and `n` itself. -/
def variants (n : Nat) : List Nat :=
  n :: match caseOrbits.find? (n ∈ ·) with
    | none => []
    | some orbit => orbit

theorem mem_variants_self (n : Nat) : n ∈ variants n := by simp [variants]

end UrlMatch.Unicode
