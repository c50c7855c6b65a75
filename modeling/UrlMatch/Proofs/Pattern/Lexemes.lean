import Mathlib.Data.List.TakeWhile
import UrlMatch.Pattern.Lexer
import UrlMatch.Pattern.Printer
import UrlMatch.Proofs.Result

/-!
# Lexemes and the text they are read from

The lexer looks ahead without bound: a name goes on for as long as it can, and a regular
expression up to the parenthesis that closes it. This module says which values a lexeme of each
kind can have and shows that such a lexeme is read again from its written form, whatever text
stands behind it, as long as that text does not continue a name.

## Main results

* `takeRegexp_append`: a regular expression that was read once is read again in front of any
  text, at any position.
* `Lexeme.Valid` and `valid_of_lexFrom`: the values of the lexemes that strict reading gives.
* `readLexeme_written`: a valid lexeme is read from the front of its written form.
* `lexFrom_written`: reading goes on behind it.
-/

namespace UrlMatch.Pattern

/-! ### Names -/

/-- A text that is a name as a whole. -/
def IsName (n : Text) : Prop := n ≠ [] ∧ takeName n = n

/-- What `takeName` reads is a name, if it is anything. -/
theorem isName_takeName {t : Text} (h : takeName t ≠ []) : IsName (takeName t) := by
  refine ⟨h, ?_⟩
  cases t with
  | nil => rfl
  | cons c rest =>
      by_cases hc : isNameStart c
      · simp [takeName, hc, List.takeWhile_takeWhile]
      · simp only [takeName, hc] at h
        exact absurd rfl h

/-- What `takeName` reads stands at the front. -/
theorem takeName_prefix (t : Text) : takeName t ++ t.drop (takeName t).length = t := by
  cases t with
  | nil => rfl
  | cons c rest =>
      by_cases hc : isNameStart c
      · have h := List.prefix_iff_eq_append.1 (List.takeWhile_prefix isNamePart (l := rest))
        simp only [takeName, hc, if_true, List.cons_append, List.length_cons, List.drop_succ_cons]
        rw [h]
      · simp [takeName, hc]

/-- A name is read up to a character that cannot continue it. -/
theorem takeName_append {n t : Text} (h : IsName n) (ht : continuesName t = false) :
    takeName (n ++ t) = n := by
  obtain ⟨hne, htake⟩ := h
  cases n with
  | nil => exact absurd rfl hne
  | cons c rest =>
      by_cases hc : isNameStart c
      · simp only [takeName, hc, if_true, List.cons.injEq, true_and] at htake
        have hrest : ∀ d ∈ rest, isNamePart d := by
          rw [← htake]
          exact fun d hd => List.mem_takeWhile_imp hd
        simp only [List.cons_append, takeName, hc, if_true, List.cons.injEq, true_and]
        rw [List.takeWhile_append_of_pos hrest]
        cases t with
        | nil => simp
        | cons d t =>
            have hd : isNamePart d = false := by simpa [continuesName] using ht
            simp [hd]
      · simp only [takeName, hc] at htake
        exact absurd htake (by simp)

/-! ### Regular expressions -/

/-- Whether a group captures is decided before its closing parenthesis. -/
theorem isNonCapturing_append (r t t' : Text) :
    isNonCapturing (r ++ ')' :: t) = isNonCapturing (r ++ ')' :: t') := by
  match r with
  | [] => rfl
  | [c] => by_cases hc : c = '?' <;> simp [isNonCapturing, hc]
  | [c, d] =>
      by_cases hc : c = '?'
      · by_cases hP : d = 'P' <;> by_cases hl : d = '<' <;> simp [isNonCapturing, hc, hP, hl]
      · simp [isNonCapturing, hc]
  | c :: d :: e :: r =>
      by_cases hc : c = '?'
      · by_cases hP : d = 'P' <;> by_cases hl : d = '<' <;> by_cases he : e = '=' <;>
          by_cases hn : e = '!' <;> simp [isNonCapturing, hc, hP, hl, he, hn]
      · simp [isNonCapturing, hc]

/-- A text that closes `depth` open parentheses and none beyond them, where a parenthesis that it
opens captures nothing. A character behind a backslash is no parenthesis. -/
inductive Balanced : Nat → Text → Prop
  | nil : Balanced 0 []
  | escape {depth : Nat} {r : Text} (c : Char) : Balanced depth r → Balanced depth ('\\' :: c :: r)
  | closing {depth : Nat} {r : Text} : Balanced depth r → Balanced (depth + 1) (')' :: r)
  | opening {depth : Nat} {r : Text} : isNonCapturing (r ++ [')']) → Balanced (depth + 1) r →
      Balanced depth ('(' :: r)
  | other {depth : Nat} {r : Text} {c : Char} : c ≠ '\\' → c ≠ '(' → c ≠ ')' → Balanced depth r →
      Balanced depth (c :: r)

/-- What is read as a regular expression is balanced, and a parenthesis closes it. -/
theorem balanced_of_takeRegexp {start depth pos : Nat} {t r : Text}
    (h : takeRegexp start depth pos t = .ok r) :
    Balanced depth r ∧ ∃ rest, t = r ++ ')' :: rest := by
  fun_induction takeRegexp start depth pos t generalizing r with
  | case1 | case2 | case7 => simp at h
  | case3 depth pos c rest ih =>
      obtain ⟨r, hr, ⟨⟩⟩ := bind_eq_ok.1 h
      obtain ⟨hb, rest, rfl⟩ := ih hr
      exact ⟨.escape c hb, rest, rfl⟩
  | case4 pos rest =>
      obtain rfl : [] = r := by simpa using h
      exact ⟨.nil, rest, rfl⟩
  | case5 depth pos rest ih =>
      obtain ⟨r, hr, ⟨⟩⟩ := bind_eq_ok.1 h
      obtain ⟨hb, rest, rfl⟩ := ih hr
      exact ⟨.closing hb, rest, rfl⟩
  | case6 depth pos rest hn ih =>
      obtain ⟨r, hr, ⟨⟩⟩ := bind_eq_ok.1 h
      obtain ⟨hb, rest, rfl⟩ := ih hr
      exact ⟨.opening (by rwa [isNonCapturing_append r [] rest]) hb, rest, rfl⟩
  | case8 depth pos c rest h1 h2 h3 h4 h5 ih =>
      obtain ⟨r, hr, ⟨⟩⟩ := bind_eq_ok.1 h
      obtain ⟨hb, rest, rfl⟩ := ih hr
      refine ⟨.other ?_ h5 ?_ hb, rest, rfl⟩
      · rintro rfl
        cases r <;> simp at h1 h2
      · rintro rfl
        cases depth <;> simp at h3 h4

/-- **A balanced text is read as a regular expression** in front of any text and at any position:
the reader never looks behind the parenthesis that closes it. -/
theorem takeRegexp_of_balanced {depth : Nat} {r : Text} (h : Balanced depth r)
    (start pos : Nat) (t : Text) : takeRegexp start depth pos (r ++ ')' :: t) = .ok r := by
  induction h generalizing pos with
  | nil => rw [List.nil_append, takeRegexp]
  | escape c _ ih => rw [List.cons_append, List.cons_append, takeRegexp, ih]; rfl
  | closing _ ih => rw [List.cons_append, takeRegexp, ih]; rfl
  | @opening depth r hn _ ih =>
      rw [List.cons_append, takeRegexp, isNonCapturing_append r t [], if_pos hn, ih]
      rfl
  | @other depth r c hs ho hc _ ih =>
      rw [List.cons_append, takeRegexp, ih]
      · rfl
      all_goals simp_all

/-- A text that stands as a regular expression between parentheses. -/
structure IsRegexp (r : Text) : Prop where
  ne_nil : r ≠ []
  head_ne : r.head? ≠ some '?'
  balanced : Balanced 0 r

/-- What is read as a regular expression is one, and its parentheses stand around it. -/
theorem isRegexp_of_readRegexp {start : Nat} {rest : Text} {l : Lexeme}
    (h : readRegexp start rest = .ok l) :
    ∃ r t, l = ⟨.regexp, start, r⟩ ∧ IsRegexp r ∧ rest = r ++ ')' :: t := by
  rw [readRegexp] at h
  split at h
  · cases h
  · rename_i hhead
    obtain ⟨r, hr, h⟩ := bind_eq_ok.1 h
    split at h
    · cases h
    · rename_i hne
      cases h
      obtain ⟨hb, t, rfl⟩ := balanced_of_takeRegexp hr
      refine ⟨r, t, rfl, ⟨hne, ?_, hb⟩, rfl⟩
      cases r with
      | nil => exact absurd rfl hne
      | cons c r => exact hhead

/-! ### Lexemes -/

namespace Lexeme

/-- The lexemes that a pattern can be written with. -/
def Valid (l : Lexeme) : Prop :=
  match l.kind with
  | .opening => l.value = ['\x7b']
  | .closing => l.value = ['\x7d']
  | .regexp => IsRegexp l.value
  | .name => IsName l.value
  | .char => ∃ c, l.value = [c] ∧ (isSpecial c = false ∨ c = ')')
  | .escapedChar => ∃ c, l.value = [c]
  | .modifier => l.value = ['+'] ∨ l.value = ['?']
  | .asterisk => l.value = ['*']
  | .invalid => False
  | .finish => l.value = []

end Lexeme

/-- A character without a meaning in patterns is a lexeme. -/
theorem readLexeme_char {c : Char} (h : isSpecial c = false) (start : Nat) (t : Text) :
    readLexeme start c t = .ok ⟨.char, start, [c]⟩ := by
  simp only [isSpecial, List.mem_cons, List.not_mem_nil, or_false, decide_eq_false_iff_not,
    not_or] at h
  obtain ⟨h1, h2, h3, h4, h5, h6, h7, -, h9⟩ := h
  unfold readLexeme
  split <;> simp_all

/-- A character begins an escape, a name or a regular expression, or it is a lexeme whatever stands
behind it. -/
theorem readLexeme_cases (c : Char) : c = '\\' ∨ c = ':' ∨ c = '(' ∨
    ∃ kind, ∀ start rest, readLexeme start c rest = .ok ⟨kind, start, [c]⟩ := by
  by_cases hspecial : isSpecial c
  · simp only [isSpecial, List.mem_cons, List.not_mem_nil, or_false, decide_eq_true_eq] at hspecial
    rcases hspecial with rfl | rfl | rfl | rfl | rfl | rfl | rfl | rfl | rfl <;>
      first | exact .inr (.inr (.inr ⟨_, fun _ _ => rfl⟩)) | simp
  · exact .inr (.inr (.inr ⟨.char, fun start rest =>
      readLexeme_char (by simpa using hspecial) start rest⟩))

/-- **What strict reading gives is valid**, starts where it was read, and was read from its
written form. -/
theorem valid_of_readLexeme {start : Nat} {c : Char} {rest : Text} {l : Lexeme}
    (h : readLexeme start c rest = .ok l) :
    l.Valid ∧ l.start = start ∧ l.kind ≠ .finish ∧ ∃ t, c :: rest = l.written ++ t := by
  unfold readLexeme at h
  split at h
  · cases h
    exact ⟨rfl, rfl, by simp, rest, rfl⟩
  · cases h
    exact ⟨.inl rfl, rfl, by simp, rest, rfl⟩
  · cases h
    exact ⟨.inr rfl, rfl, by simp, rest, rfl⟩
  · cases h
    exact ⟨rfl, rfl, by simp, rest, rfl⟩
  · cases h
    exact ⟨rfl, rfl, by simp, rest, rfl⟩
  · split at h
    · cases h
    · rename_i d t
      cases h
      exact ⟨⟨d, rfl⟩, rfl, by simp, t, rfl⟩
  · dsimp only at h
    split at h
    · cases h
    · rename_i hne
      cases h
      exact ⟨isName_takeName hne, rfl, by simp, rest.drop (takeName rest).length, by
        simp [Lexeme.written, takeName_prefix]⟩
  · obtain ⟨r, t, rfl, hr, rfl⟩ := isRegexp_of_readRegexp h
    exact ⟨hr, rfl, by simp, t, by simp [Lexeme.written]⟩
  · cases h
    refine ⟨⟨_, rfl, ?_⟩, rfl, by simp, rest, rfl⟩
    by_cases hc : c = ')'
    · exact .inr hc
    · left
      simp_all [isSpecial]

/-- **A valid lexeme is read from its written form**, if what follows does not continue a name. -/
theorem readLexeme_written {l : Lexeme} (h : l.Valid) (hf : l.kind ≠ .finish) {t : Text}
    (ht : l.kind = .name → continuesName t = false) :
    ∃ c rest, l.written ++ t = c :: rest ∧ readLexeme l.start c rest = .ok l := by
  obtain ⟨kind, start, value⟩ := l
  cases kind with
  | opening | closing | asterisk =>
      obtain rfl : value = _ := h
      exact ⟨_, _, rfl, rfl⟩
  | modifier =>
      obtain rfl | rfl : value = _ ∨ value = _ := h <;> exact ⟨_, _, rfl, rfl⟩
  | escapedChar =>
      obtain ⟨c, rfl⟩ : ∃ c, value = [c] := h
      exact ⟨_, _, rfl, rfl⟩
  | char =>
      obtain ⟨c, rfl, hc⟩ : ∃ c, value = [c] ∧ _ := h
      refine ⟨c, t, rfl, ?_⟩
      rcases hc with hc | rfl
      · exact readLexeme_char hc start t
      · rfl
  | name =>
      have hn : IsName value := h
      refine ⟨':', value ++ t, rfl, ?_⟩
      simp [readLexeme, takeName_append hn (ht rfl), hn.1]
  | regexp =>
      have hr : IsRegexp value := h
      refine ⟨'(', value ++ ')' :: t, by simp [Lexeme.written], ?_⟩
      have hhead : (value ++ ')' :: t).head? ≠ some '?' := by
        cases value with
        | nil => exact absurd rfl hr.ne_nil
        | cons c r => exact hr.head_ne
      simp only [readLexeme, readRegexp, if_neg hhead, takeRegexp_of_balanced hr.balanced, ok_bind,
        if_neg hr.ne_nil]
      rfl
  | invalid => exact absurd h id
  | finish => exact absurd rfl hf

/-! ### Texts -/

/-- Something is written for every lexeme but the end. -/
theorem Lexeme.Valid.written_ne_nil {l : Lexeme} (h : l.Valid) (hf : l.kind ≠ .finish) :
    l.written ≠ [] := by
  obtain ⟨c, rest, hw, -⟩ := readLexeme_written h hf (t := []) (fun _ => rfl)
  rw [List.append_nil] at hw
  simp [hw]

/-- What is left behind a lexeme that was read. -/
theorem drop_written {l : Lexeme} (h : l.written ≠ []) {c : Char} {rest t : Text}
    (ht : c :: rest = l.written ++ t) : rest.drop (l.written.length - 1) = t := by
  cases hl : l.written with
  | nil => exact absurd hl h
  | cons d w =>
      rw [hl, List.cons_append, List.cons.injEq] at ht
      simp [ht.2]

/-- Reading a text is reading a lexeme and then what is left. -/
theorem lexFrom_cons {policy : LexPolicy} {start : Nat} {c : Char} {rest : Text} {l : Lexeme}
    (h : readLexeme start c rest = .ok l) :
    lexFrom policy start (c :: rest) = (do
      return l :: (← lexFrom policy (start + Text.utf8Size l.written)
        (rest.drop (l.written.length - 1)))) := by
  rw [lexFrom.eq_def]
  simp only [h]
  cases policy <;> rfl

/-- A text that is read strictly starts with a lexeme. -/
theorem exists_lexeme_of_lexFrom {start : Nat} {c : Char} {rest : Text} {ls : List Lexeme}
    (h : lexFrom .strict start (c :: rest) = .ok ls) : ∃ l, readLexeme start c rest = .ok l := by
  rw [lexFrom.eq_def] at h
  obtain ⟨l, hl, -⟩ := bind_eq_ok.1 h
  exact ⟨l, hl⟩

/-- **Reading goes on behind a lexeme**, under both policies. -/
theorem lexFrom_written (policy : LexPolicy) {l : Lexeme} (h : l.Valid) (hf : l.kind ≠ .finish)
    {t : Text} (ht : l.kind = .name → continuesName t = false) :
    lexFrom policy l.start (l.written ++ t) = (do
      return l :: (← lexFrom policy (l.start + Text.utf8Size l.written) t)) := by
  obtain ⟨c, rest, hw, hread⟩ := readLexeme_written h hf ht
  rw [hw, lexFrom_cons hread, drop_written (h.written_ne_nil hf) hw.symm]

/-- Strict reading gives valid lexemes, and their written forms make up the text. -/
theorem valid_of_lexFrom {start : Nat} {t : Text} {ls : List Lexeme}
    (h : lexFrom .strict start t = .ok ls) :
    (∀ l ∈ ls, l.Valid) ∧ ls.flatMap Lexeme.written = t := by
  induction hn : t.length using Nat.strong_induction_on generalizing t start ls with
  | _ n ih =>
      cases t with
      | nil =>
          rw [lexFrom] at h
          cases h
          simp [Lexeme.Valid, Lexeme.written]
      | cons c rest =>
          obtain ⟨l, hl⟩ := exists_lexeme_of_lexFrom h
          obtain ⟨hv, -, hf, t, ht⟩ := valid_of_readLexeme hl
          have hne := hv.written_ne_nil hf
          rw [lexFrom_cons hl, drop_written hne ht] at h
          obtain ⟨ls, hls, ⟨⟩⟩ := bind_eq_ok.1 h
          have hlt : t.length < n := by
            have := List.length_pos_iff.2 hne
            rw [← hn, ht, List.length_append]
            omega
          obtain ⟨hvs, hws⟩ := ih _ hlt hls rfl
          rw [ht, List.flatMap_cons, hws]
          exact ⟨List.forall_mem_cons.2 ⟨hv, hvs⟩, rfl⟩

end UrlMatch.Pattern
