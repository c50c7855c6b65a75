import UrlMatch.Proofs.Pattern.Literal
import UrlMatch.Proofs.Pattern.Policies

/-!
# Texts in front of a pattern

How a text is read does not depend on where it starts, apart from the bytes that its lexemes and its
errors name. So what a text in front of a pattern can change is the place of the pattern only, as
long as its own last lexeme ends where it does itself. This holds of an escaped text: each of its
characters is a lexeme, whatever stands behind it.

## Main results

* `lexFrom_shift`: a text that stands further on is read as it is at the front.
* `lex_escape_append`: an escaped text in front of a pattern is read as it is alone, and the pattern
  behind it as it is alone, further on.
-/

namespace UrlMatch.Pattern

/-! ### Moving on -/

/-- The error about a text that stands `n` bytes further on. -/
def Error.shift (n : Nat) : Error → Error
  | .loneEscape i => .loneEscape (i + n)
  | .missingName i => .missingName (i + n)
  | .leadingQuestionMark i => .leadingQuestionMark (i + n)
  | .nestedCapture i => .nestedCapture (i + n)
  | .unbalancedRegexp i => .unbalancedRegexp (i + n)
  | .emptyRegexp i => .emptyRegexp (i + n)
  | .unexpected i found expected => .unexpected (i + n) found expected
  | e => e

/-- The result of reading a text that stands `n` bytes further on. -/
def shiftRead (n : Nat) (read : Except Error (List Lexeme)) : Except Error (List Lexeme) :=
  (read.map (·.map (Lexeme.shift n))).mapError (Error.shift n)

/-- Where a regular expression stands matters for its errors only. -/
theorem takeRegexp_shift (start n depth pos : Nat) (t : Text) :
    takeRegexp (start + n) depth (pos + n) t =
      (takeRegexp start depth pos t).mapError (Error.shift n) := by
  -- what is put in front of a result does not stand in its error
  have hcons {c : Text} {x : Except Error Text} :
      (do return c ++ (← x.mapError (Error.shift n))) =
        (do return c ++ (← x) : Except Error Text).mapError (Error.shift n) := by
    cases x <;> rfl
  fun_induction takeRegexp start depth pos t with
  | case1 | case2 => rfl
  | case3 depth pos c rest ih =>
      have hpos : pos + n + 1 + c.utf8Size = pos + 1 + c.utf8Size + n := by omega
      rw [takeRegexp, hpos, ih]
      exact hcons (c := ['\\', c])
  | case4 => rw [takeRegexp]; rfl
  | case5 depth pos rest ih =>
      rw [takeRegexp, Nat.add_right_comm pos n 1, ih]
      exact hcons (c := [')'])
  | case6 depth pos rest hn ih =>
      rw [takeRegexp, if_pos hn, Nat.add_right_comm pos n 1, ih]
      exact hcons (c := ['('])
  | case7 depth pos rest hn =>
      rw [takeRegexp, if_neg hn]
      rfl
  | case8 depth pos c rest h1 h2 h3 h4 h5 ih =>
      rw [takeRegexp, Nat.add_right_comm pos n, ih]
      · exact hcons (c := [c])
      all_goals assumption

theorem readRegexp_shift (start n : Nat) (rest : Text) :
    readRegexp (start + n) rest =
      ((readRegexp start rest).map (Lexeme.shift n)).mapError (Error.shift n) := by
  rw [readRegexp, readRegexp, Nat.add_right_comm start n 1, takeRegexp_shift]
  split
  · rfl
  · cases takeRegexp start 0 (start + 1) rest with
    | error e => rfl
    | ok body =>
        by_cases hbody : body = []
        · rw [hbody]
          rfl
        · simp only [Except.mapError, ok_bind, if_neg hbody]
          rfl

/-- **The lexeme at the front of a text** is the same wherever the text stands. -/
theorem readLexeme_shift (start n : Nat) (c : Char) (rest : Text) :
    readLexeme (start + n) c rest =
      ((readLexeme start c rest).map (Lexeme.shift n)).mapError (Error.shift n) := by
  rcases readLexeme_cases c with rfl | rfl | rfl | ⟨kind, hread⟩
  · cases rest <;> rfl
  · simp only [readLexeme]
    split <;> rfl
  · exact readRegexp_shift start n rest
  · rw [hread, hread]
    rfl

/-- **A text that stands further on is read as it is at the front.** -/
theorem lexFrom_shift (policy : LexPolicy) (start n : Nat) (t : Text) :
    lexFrom policy (start + n) t = shiftRead n (lexFrom policy start t) := by
  have hcons (l : Lexeme) (read : Except Error (List Lexeme)) :
      (do return l.shift n :: (← shiftRead n read)) = shiftRead n (do return l :: (← read)) := by
    cases read <;> rfl
  -- a lexeme may take any number of characters, but at least one
  induction hn : t.length using Nat.strong_induction_on generalizing start t with
  | _ m ih =>
      cases t with
      | nil =>
          rw [lexFrom, lexFrom]
          rfl
      | cons c rest =>
          have hshift := readLexeme_shift start n c rest
          cases hread : readLexeme start c rest with
          | ok l =>
              rw [hread] at hshift
              have hshift : readLexeme (start + n) c rest = .ok (l.shift n) := hshift
              have hlt : (rest.drop (l.written.length - 1)).length < m := by
                rw [← hn, List.length_drop, List.length_cons]
                omega
              rw [lexFrom_cons hshift, lexFrom_cons hread, ← hcons, ← ih _ hlt _ _ rfl,
                Lexeme.written_shift, Nat.add_right_comm]
          | error e =>
              rw [hread] at hshift
              have hshift : readLexeme (start + n) c rest = .error (e.shift n) := hshift
              cases policy with
              | strict =>
                  rw [lexFrom_strict_of_error hshift, lexFrom_strict_of_error hread]
                  rfl
              | lenient =>
                  have hlt : rest.length < m := by
                    rw [← hn]
                    exact Nat.lt_succ_self _
                  rw [lexFrom_of_error hshift, lexFrom_of_error hread, ← hcons, ← ih _ hlt _ _ rfl,
                    Nat.add_right_comm]
                  rfl

/-! ### Escaped texts -/

/-- An escaped text alone is read as the lexemes of its characters. -/
theorem lex_escape (policy : LexPolicy) (v : Text) :
    lex policy (escape v) = .ok (textLexemes 0 v ++ [⟨.finish, Text.utf8Size (escape v), []⟩]) := by
  have hread := lexFrom_escape_append policy 0 v []
  rwa [List.append_nil, Nat.zero_add, lexFrom] at hread

/-- **An escaped text in front of a pattern** is read as it is alone, and the pattern behind it as it
is alone, further on. -/
theorem lex_escape_append (policy : LexPolicy) (v r : Text) :
    lex policy (escape v ++ r) =
      (shiftRead (Text.utf8Size (escape v)) (lex policy r)).map (textLexemes 0 v ++ ·) := by
  rw [lex, lexFrom_escape_append, lexFrom_shift]
  rfl

/-- Where any text is its own canonical form, an escaped text is read as itself. -/
theorem parse_escape_self {o : ReadOptions} (h : ∀ t, o.encode t = .ok t) (v : Text) :
    parse o (escape v) = .ok (literalParts v) := by
  rw [parse_escape, gathered_eq_self h]

end UrlMatch.Pattern
