import UrlMatch.Proofs.Pattern.Positions

/-!
# Strict and lenient reading

Up to the first character at which no lexeme can be read, both policies read the same lexemes. There
strict reading stops and says why; lenient reading takes the character for a lexeme of its own. So
the lenient lexemes tell whether strict reading succeeds, and the first of them that is at fault
tells what its error is about: the error names the byte of this lexeme, or a byte behind it that is
part of what makes it fail.

## Main results

* `Error.Blames`: what an error of strict reading says about the lexeme at fault.
* `lexFrom_policies`: the two policies go together up to the first lexeme at fault.
* `lex_policies_agree`: strict reading, as it can be seen on the lenient lexemes.
-/

namespace UrlMatch.Pattern

/-- The error says what is wrong in the text `t` at the lexeme `l`, which is no more than the
character that could not be read. -/
def Error.Blames (t : Text) (l : Lexeme) : Error → Prop
  | .loneEscape i => l.value = ['\\'] ∧ i = l.start
  | .missingName i => l.value = [':'] ∧ i = l.start
  | .unbalancedRegexp i | .emptyRegexp i => l.value = ['('] ∧ i = l.start
  | .leadingQuestionMark i => l.value = ['('] ∧ i = l.start + 1
  | .nestedCapture i => l.value = ['('] ∧ l.start < i ∧ t.slice? i (i + 1) = some ['(']
  | _ => False

/-! ### One lexeme -/

/-- Why no regular expression ends in the text `t` at the byte `pos`: the parenthesis at the byte
`start` is not closed, or another one in the text would capture. -/
def RegexpFault (start pos : Nat) (t : Text) (e : Error) : Prop :=
  e = .unbalancedRegexp start ∨
    ∃ body rest, t = body ++ '(' :: rest ∧ e = .nestedCapture (pos + Text.utf8Size body)

/-- What is wrong with a text is wrong with it behind another one. -/
theorem RegexpFault.append {start pos : Nat} {t : Text} {e : Error} (w : Text)
    (h : RegexpFault start (pos + Text.utf8Size w) t e) : RegexpFault start pos (w ++ t) e := by
  rcases h with rfl | ⟨body, rest, rfl, rfl⟩
  · exact .inl rfl
  · exact .inr ⟨w ++ body, rest, (List.append_assoc ..).symm, by simp [Nat.add_assoc]⟩

/-- Reading a regular expression says what is wrong with it. -/
theorem regexpFault_of_takeRegexp {start depth pos : Nat} {t : Text} {e : Error}
    (h : takeRegexp start depth pos t = .error e) : RegexpFault start pos t e := by
  fun_induction takeRegexp start depth pos t with
  | case1 | case2 =>
      cases h
      exact .inl rfl
  | case3 depth pos c rest ih =>
      -- two steps, as the bytes of the backslash and of the character are counted apart
      exact ((ih (bind_pure_eq_error.1 h)).append [c]).append ['\\']
  | case4 => cases h
  | case5 depth pos rest ih => exact (ih (bind_pure_eq_error.1 h)).append [')']
  | case6 depth pos rest _ ih => exact (ih (bind_pure_eq_error.1 h)).append ['(']
  | case7 depth pos rest =>
      cases h
      exact .inr ⟨[], rest, rfl, rfl⟩
  | case8 depth pos c rest _ _ _ _ _ ih => exact (ih (bind_pure_eq_error.1 h)).append [c]

/-- The error at an opening parenthesis. -/
theorem blames_of_readRegexp {front rest : Text} {e : Error}
    (h : readRegexp (Text.utf8Size front) rest = .error e) :
    e.Blames (front ++ '(' :: rest) ⟨.invalid, Text.utf8Size front, ['(']⟩ := by
  rw [readRegexp] at h
  split at h
  · cases h
    exact ⟨rfl, rfl⟩
  · rcases bind_eq_error.1 h with h | ⟨body, -, h⟩
    · rcases regexpFault_of_takeRegexp h with rfl | ⟨body, behind, rfl, rfl⟩
      · exact ⟨rfl, rfl⟩
      · have hslice := Text.slice?_append (front ++ '(' :: body) ['('] behind
        have hparen : '('.utf8Size = 1 := rfl
        refine ⟨rfl, by simp only; omega, ?_⟩
        simpa [Nat.add_assoc, hparen] using hslice
    · split at h
      · cases h
        exact ⟨rfl, rfl⟩
      · cases h

/-- **The error at a character is about the lexeme that lenient reading makes of it.** -/
theorem blames_of_readLexeme {front rest : Text} {c : Char} {e : Error}
    (h : readLexeme (Text.utf8Size front) c rest = .error e) :
    e.Blames (front ++ c :: rest) ⟨.invalid, Text.utf8Size front, [c]⟩ := by
  rcases readLexeme_cases c with rfl | rfl | rfl | ⟨kind, hread⟩
  · cases rest with
    | nil =>
        cases h
        exact ⟨rfl, rfl⟩
    | cons d rest => cases h
  · simp only [readLexeme] at h
    split at h
    · cases h
      exact ⟨rfl, rfl⟩
    · cases h
  · exact blames_of_readRegexp h
  · rw [hread] at h
    cases h

/-! ### All lexemes -/

/-- Where no lexeme can be read, strict reading fails. -/
theorem lexFrom_strict_of_error {start : Nat} {c : Char} {rest : Text} {e : Error}
    (h : readLexeme start c rest = .error e) :
    lexFrom .strict start (c :: rest) = .error e := by
  rw [lexFrom.eq_def]
  simp only [h]
  rfl

/-- **The two policies go together up to the first lexeme at fault.** Behind the text `front`,
either lenient reading finds no fault and strict reading gives the same lexemes, or strict reading
fails at the first fault that lenient reading finds. -/
theorem lexFrom_policies {front t : Text} {ls : List Lexeme}
    (h : lexFrom .lenient (Text.utf8Size front) t = .ok ls) :
    (lexFrom .strict (Text.utf8Size front) t = .ok ls ∧ ∀ l ∈ ls, l.kind ≠ .invalid) ∨
      ∃ e l, lexFrom .strict (Text.utf8Size front) t = .error e ∧
        ls.find? (·.kind = .invalid) = some l ∧ e.Blames (front ++ t) l := by
  induction hn : t.length using Nat.strong_induction_on generalizing front t ls with
  | _ n ih =>
      cases t with
      | nil =>
          rw [lexFrom] at h ⊢
          cases h
          exact .inl ⟨rfl, by simp⟩
      | cons c rest =>
          cases hread : readLexeme (Text.utf8Size front) c rest with
          | error e =>
              rw [lexFrom_of_error hread] at h
              obtain ⟨ls', -, ⟨⟩⟩ := bind_eq_ok.1 h
              exact .inr ⟨e, _, lexFrom_strict_of_error hread, rfl, blames_of_readLexeme hread⟩
          | ok l =>
              obtain ⟨hvalid, hstart, hfinish, behind, hbehind⟩ := valid_of_readLexeme hread
              have hne := hvalid.written_ne_nil hfinish
              have hkind : l.kind ≠ .invalid := by
                intro hkind
                simp [Lexeme.Valid, hkind] at hvalid
              have hlt : behind.length < n := by
                have := List.length_pos_iff.2 hne
                rw [← hn, hbehind, List.length_append]
                omega
              rw [lexFrom_cons hread, drop_written hne hbehind, ← Text.utf8Size_append] at h ⊢
              obtain ⟨ls', hls', ⟨⟩⟩ := bind_eq_ok.1 h
              rw [hbehind, ← List.append_assoc]
              rcases ih _ hlt hls' rfl with ⟨hstrict, hall⟩ | ⟨e, l', hstrict, hl', hblames⟩
              · exact .inl ⟨bind_eq_ok.2 ⟨ls', hstrict, rfl⟩,
                  List.forall_mem_cons.2 ⟨hkind, hall⟩⟩
              · exact .inr ⟨e, l', bind_pure_eq_error.2 hstrict, by simpa [hkind] using hl',
                  hblames⟩

/-- **Strict reading, as it can be seen on the lenient lexemes.** It succeeds exactly if none of
them is at fault, and then gives the same lexemes. If it fails, its error is about the first lexeme
at fault. -/
theorem lex_policies_agree (t : Text) :
    ∃ ls, lex .lenient t = .ok ls ∧
      ((∃ ls', lex .strict t = .ok ls') ↔ ∀ l ∈ ls, l.kind ≠ .invalid) ∧
      (∀ ls', lex .strict t = .ok ls' → ls' = ls) ∧
      ∀ e, lex .strict t = .error e →
        ∃ l, ls.find? (·.kind = .invalid) = some l ∧ e.Blames t l := by
  obtain ⟨ls, hls⟩ := exists_lexFrom_lenient 0 t
  refine ⟨ls, hls, ?_⟩
  rcases @lexFrom_policies [] t ls hls with ⟨hstrict, hvalid⟩ | ⟨e, l, hstrict, hl, hblames⟩
  · have hstrict : lex .strict t = .ok ls := hstrict
    rw [hstrict]
    exact ⟨⟨fun _ => hvalid, fun _ => ⟨ls, rfl⟩⟩, fun _ h => (Except.ok.inj h).symm, nofun⟩
  · have hstrict : lex .strict t = .error e := hstrict
    have hmem := List.mem_of_find?_eq_some hl
    have hkind : l.kind = .invalid := by simpa using List.find?_some hl
    rw [hstrict]
    refine ⟨⟨nofun, fun hvalid => absurd hkind (hvalid l hmem)⟩, nofun, fun e' he => ?_⟩
    exact ⟨l, hl, Except.error.inj he ▸ hblames⟩

end UrlMatch.Pattern
