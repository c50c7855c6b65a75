import UrlMatch.Pattern.Parser
import UrlMatch.Proofs.Pattern.Lexemes

/-!
# Escaped texts

Escaping puts a backslash in front of every character with a meaning in patterns, and leaves the
others alone. So a mark at an end of a text can be told from the escaped text too: a mark without a
meaning is still there, and one with a meaning has its backslash.

## Main results

* `dropLeading_escape`, `dropTrailing_escape`: what taking a mark away leaves of an escaped text.
* `lexFrom_escape_append`: an escaped text is read character by character.
* `parse_escape_backslash`: a backslash behind everything else is refused.
-/

namespace UrlMatch.Pattern

variable {c : Char} {v : Text}

theorem escape_cons (c : Char) (v : Text) :
    escape (c :: v) = (if isSpecial c then ['\\', c] else [c]) ++ escape v := List.flatMap_cons

theorem escape_cons_special (h : isSpecial c) : escape (c :: v) = '\\' :: c :: escape v := by
  rw [escape_cons, if_pos h]
  rfl

theorem escape_cons_plain (h : isSpecial c = false) : escape (c :: v) = c :: escape v := by
  rw [escape_cons, if_neg (by simp [h])]
  rfl

/-- Escaping loses no character. -/
theorem mem_escape (h : c ∈ v) : c ∈ escape v := by
  refine List.mem_flatMap.2 ⟨c, h, ?_⟩
  split <;> simp

/-- The characters of an escaped text are those of the text, and backslashes. -/
theorem mem_of_mem_escape (h : c ∈ escape v) : c = '\\' ∨ c ∈ v := by
  obtain ⟨d, hd, hc⟩ := List.mem_flatMap.1 h
  split at hc
  · rcases List.mem_cons.1 hc with rfl | hc
    · exact .inl rfl
    · exact .inr (List.mem_singleton.1 hc ▸ hd)
  · exact .inr (List.mem_singleton.1 hc ▸ hd)

/-! ### Marks at the ends -/

/-- A mark with a meaning is not taken away from the front, as it has a backslash there. -/
theorem dropLeading_escape_special (h : isSpecial c) (hc : c ≠ '\\') (v : Text) :
    Text.dropLeading c (escape v) = escape v := by
  cases v with
  | nil => rfl
  | cons d v =>
      by_cases hd : isSpecial d
      · rw [escape_cons_special hd, Text.dropLeading, if_neg (Ne.symm hc)]
      · have hne : d ≠ c := fun heq => hd (heq ▸ h)
        rw [escape_cons_plain (by simpa using hd), Text.dropLeading, if_neg hne]

/-- A mark without a meaning is taken away from the front as if nothing were escaped. -/
theorem dropLeading_escape_plain (h : isSpecial c = false) (v : Text) :
    Text.dropLeading c (escape v) = escape (Text.dropLeading c v) := by
  have hc : c ≠ '\\' := by
    rintro rfl
    exact absurd h (by decide)
  cases v with
  | nil => rfl
  | cons d v =>
      by_cases hd : isSpecial d
      · have hne : d ≠ c := by
          rintro rfl
          rw [h] at hd
          cases hd
        rw [escape_cons_special hd, Text.dropLeading, Text.dropLeading, if_neg hne,
          if_neg (Ne.symm hc), escape_cons_special hd]
      · rw [escape_cons_plain (by simpa using hd), Text.dropLeading, Text.dropLeading]
        split
        · rfl
        · rw [escape_cons_plain (by simpa using hd)]

theorem escape_concat (v : Text) (c : Char) :
    escape (v ++ [c]) = escape v ++ if isSpecial c then ['\\', c] else [c] := by
  simp [escape]

/-- Escaping keeps the last character. -/
theorem getLast?_escape (v : Text) : (escape v).getLast? = v.getLast? := by
  rcases List.eq_nil_or_concat v with rfl | ⟨v, c, rfl⟩
  · rfl
  · rw [List.concat_eq_append, escape_concat]
    split <;> simp

/-- What is behind no mark is kept. -/
theorem dropTrailing_escape (h : v.getLast? ≠ some c) : Text.dropTrailing c (escape v) = escape v :=
  if_neg (by rwa [getLast?_escape])

/-- Where a mark with a meaning is taken away from the end, its backslash stays. -/
theorem dropTrailing_escape_special (h : isSpecial c) (v : Text) :
    Text.dropTrailing c (escape (v ++ [c])) = escape v ++ ['\\'] := by
  have hsplit : escape (v ++ [c]) = (escape v ++ ['\\']) ++ [c] := by
    rw [escape_concat, if_pos h, List.append_assoc]
    rfl
  rw [hsplit, Text.dropTrailing, if_pos (by simp), List.dropLast_concat]

/-! ### Reading -/

/-- The lexeme that stands for a character in its escaped form. -/
def textLexeme (start : Nat) (c : Char) : Lexeme :=
  ⟨if isSpecial c then .escapedChar else .char, start, [c]⟩

/-- The lexemes of an escaped text that starts at the byte `start`. -/
def textLexemes (start : Nat) : Text → List Lexeme
  | [] => []
  | c :: v => textLexeme start c :: textLexemes (start + Text.utf8Size (escape [c])) v

theorem isText_textLexeme (start : Nat) (c : Char) : (textLexeme start c).isText := by
  by_cases hc : isSpecial c <;> simp [textLexeme, Lexeme.isText, hc]

theorem valid_textLexeme (start : Nat) (c : Char) : (textLexeme start c).Valid := by
  by_cases hc : isSpecial c <;> simp [textLexeme, Lexeme.Valid, hc]

theorem written_textLexeme (start : Nat) (c : Char) :
    (textLexeme start c).written = escape [c] := by
  by_cases hc : isSpecial c <;> simp [textLexeme, Lexeme.written, escape, hc]

theorem isText_textLexemes (start : Nat) (v : Text) : ∀ l ∈ textLexemes start v, l.isText := by
  induction v generalizing start with
  | nil => exact List.forall_mem_nil _
  | cons c v ih => exact List.forall_mem_cons.2 ⟨isText_textLexeme start c, ih _⟩

/-- The lexemes of an escaped text stand for the text. -/
theorem textOf_textLexemes (start : Nat) (v : Text) : textOf (textLexemes start v) = v := by
  induction v generalizing start with
  | nil => rfl
  | cons c v ih => exact congrArg (c :: ·) (ih _)

/-- **An escaped text is read character by character**, whatever stands behind it. -/
theorem lexFrom_escape_append (policy : LexPolicy) (start : Nat) (v t : Text) :
    lexFrom policy start (escape v ++ t) = (do
      return textLexemes start v ++
        (← lexFrom policy (start + Text.utf8Size (escape v)) t)) := by
  induction v generalizing start with
  | nil => exact (bind_pure _).symm
  | cons c v ih =>
      have hsplit : escape (c :: v) = (textLexeme start c).written ++ escape v := by
        rw [written_textLexeme, escape, escape, escape, ← List.flatMap_append, List.singleton_append]
      have htext := isText_textLexeme start c
      have hfinish : (textLexeme start c).kind ≠ .finish := by
        intro hkind
        simp [Lexeme.isText, hkind] at htext
      have hname (hkind : (textLexeme start c).kind = .name) :
          continuesName (escape v ++ t) = false := by
        simp [Lexeme.isText, hkind] at htext
      have hread : lexFrom policy start ((textLexeme start c).written ++ (escape v ++ t)) = _ :=
        lexFrom_written policy (valid_textLexeme start c) hfinish hname
      rw [hsplit, List.append_assoc, hread, ih, Text.utf8Size_append, written_textLexeme,
        ← Nat.add_assoc, bind_assoc]
      rfl

/-! ### A backslash at the end -/

/-- **A backslash behind everything else escapes nothing**, and there is no such pattern. -/
theorem parse_escape_backslash (o : ReadOptions) (v : Text) (ps : List Part) :
    parse o (escape v ++ ['\\']) ≠ .ok ps := by
  intro h
  obtain ⟨ls, hls, -⟩ := bind_eq_ok.1 h
  rw [lex, lexFrom_escape_append] at hls
  obtain ⟨behind, hbehind, -⟩ := bind_eq_ok.1 hls
  obtain ⟨l, hl⟩ := exists_lexeme_of_lexFrom hbehind
  cases hl

end UrlMatch.Pattern
