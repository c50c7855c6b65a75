import UrlMatch.Fields.Basic
import UrlMatch.Proofs.Pattern.Shift
import UrlMatch.Proofs.Text

/-!
# A relative pattern behind the path of its base

A relative pattern is put behind the last slash of its base's path, which is escaped before. Cutting
the escaped path never takes an escaped character apart, for the slash has no backslash and none
is left behind the cut alone. And what is in front of the cut is read character by character, so
that the pattern is read as if nothing were in front of it.

## Main results

* `Fields.exists_resolvePath_pattern`: a relative pattern is put behind an escaped folder.
* `Fields.escape_inert`: escaped texts are read as their characters, alone and in front of patterns.
-/

namespace UrlMatch

open Pattern

namespace Fields

variable {u : Url}

/-- **A relative pattern is put behind the folder of its base**, which is escaped. -/
theorem exists_resolvePath_pattern (h : '/' ∈ u.path) :
    ∃ folder file, u.path = folder ++ file ∧ folder.getLast? = some '/' ∧ '/' ∉ file ∧
      ∀ r, resolvePath .pattern u r = escape folder ++ r := by
  obtain ⟨front, file, -, hpath, hfile⟩ := Text.exists_cutAfterLast? h
  refine ⟨front ++ ['/'], file, by simp [hpath], by simp, hfile, fun r => ?_⟩
  have hslash : isSpecial '/' = false := by decide
  have hescaped : escape u.path = escape front ++ '/' :: escape file := by
    rw [hpath, escape, List.flatMap_append]
    exact congrArg (_ ++ ·) (escape_cons_plain hslash)
  have hfile' : '/' ∉ escape file := by
    intro hmem
    rcases mem_of_mem_escape hmem with hback | hmem
    · exact absurd hback (by decide)
    · exact hfile hmem
  have hfolder : escape (front ++ ['/']) = escape front ++ ['/'] := by
    rw [escape_concat, hslash]
    rfl
  rw [resolvePath, inherited, hescaped, Text.cutAfterLast?_append _ hfile', hfolder]

/-- **Escaped texts are inert.** An escaped text is read as one fixed text, where any text is its own
canonical form. Its lexemes stand for its characters, and in front of any other text it is read as
the same lexemes, and the other text as if it stood alone, further on. So is a relative pattern
behind the path of a base: the lexemes in front of it stand for the path up to its last slash. -/
theorem escape_inert :
    (∀ o : ReadOptions, (∀ t, o.encode t = .ok t) → ∀ v,
      parse o (escape v) = .ok (if v = [] then [] else [.fixed v .once])) ∧
    (∀ v, ∃ front, (∀ l ∈ front, l.isText) ∧ textOf front = v ∧ ∀ policy,
      lex policy (escape v) = .ok (front ++ [⟨.finish, Text.utf8Size (escape v), []⟩]) ∧
      ∀ r, lex policy (escape v ++ r) =
        (shiftRead (Text.utf8Size (escape v)) (lex policy r)).map (front ++ ·)) ∧
    ∀ u : Url, '/' ∈ u.path → ∃ folder file front, u.path = folder ++ file ∧
      folder.getLast? = some '/' ∧ '/' ∉ file ∧ (∀ l ∈ front, l.isText) ∧ textOf front = folder ∧
      ∀ policy r, lex policy (resolvePath .pattern u r) =
        (shiftRead (Text.utf8Size (escape folder)) (lex policy r)).map (front ++ ·) := by
  refine ⟨fun o ho v => parse_escape_self ho v, fun v => ?_, fun u hu => ?_⟩
  · exact ⟨textLexemes 0 v, isText_textLexemes 0 v, textOf_textLexemes 0 v, fun policy =>
      ⟨lex_escape policy v, lex_escape_append policy v⟩⟩
  · obtain ⟨folder, file, hpath, hlast, hfile, hresolve⟩ := exists_resolvePath_pattern hu
    refine ⟨folder, file, textLexemes 0 folder, hpath, hlast, hfile, isText_textLexemes 0 folder,
      textOf_textLexemes 0 folder, fun policy r => ?_⟩
    rw [hresolve, lex_escape_append]

/-- The text `a*b` is read as one fixed text, and the relative pattern `:id` behind the path
`/a+b/c` as a name behind the characters of the folder `/a+b/`. -/
theorem escape_inert_of_signs :
    parse .default (escape "a*b".toList) = .ok [.fixed "a*b".toList .once] ∧
      ∃ folder file front, "/a+b/c".toList = folder ++ file ∧ folder.getLast? = some '/' ∧
        '/' ∉ file ∧ textOf front = folder ∧ lex .strict "/a\\+b/:id".toList =
          (shiftRead (Text.utf8Size (escape folder)) (lex .strict ":id".toList)).map
            (front ++ ·) := by
  let u : Url := ⟨"http".toList, [], none, true, none, none, "/a+b/c".toList, none, none⟩
  have hslash : '/' ∈ u.path := by decide
  have hresolve : resolvePath .pattern u ":id".toList = "/a\\+b/:id".toList := by decide
  obtain ⟨hparse, -, hlex⟩ := escape_inert
  obtain ⟨folder, file, front, hpath, hlast, hfile, -, htext, hread⟩ := hlex u hslash
  refine ⟨hparse .default (fun _ => rfl) _, folder, file, front, hpath, hlast, hfile, htext, ?_⟩
  rw [← hresolve]
  exact hread .strict _

end Fields

end UrlMatch
