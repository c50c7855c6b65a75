import UrlMatch.Proofs.Pattern.Positions

/-!
# Reading a piece of a text

The lexer looks ahead without bound, so what is read at a character may depend on everything behind
it. A text that is cut may lose the parenthesis that closes a regular expression, but a cut never
makes a lexeme that was not there: what can be read at a character can still be read when more text
follows. And a cut in front of a lexeme never takes a part of the lexeme before it. So lexemes that
follow one another are read from their own text alone, wherever this text starts.

## Main results

* `exists_readLexeme_append`: more text behind it leaves a lexeme to be read.
* `lexFrom_behind`: reading goes on in the same way from the start of any lexeme.
* `lexFrom_spelling`: lexemes that follow one another are read from their own text.
* `lex_slice`: a slice of a text between two of its lexemes is read as the lexemes in it.
-/

namespace UrlMatch.Pattern

/-! ### Look-ahead -/

/-- A name goes on for as long as it can. -/
theorem continuesName_behind {t behind : Text} (h : takeName t ≠ [])
    (ht : t = takeName t ++ behind) : continuesName behind = false := by
  cases t with
  | nil => exact absurd rfl h
  | cons c rest =>
      by_cases hc : isNameStart c
      · simp only [takeName, hc, if_true, List.cons_append, List.cons.injEq, true_and] at ht
        have hdrop : behind = rest.dropWhile isNamePart :=
          List.append_cancel_left (ht.symm.trans List.takeWhile_append_dropWhile.symm)
        have hhead := List.head?_dropWhile_not isNamePart rest
        rw [continuesName, hdrop]
        cases hbehind : (rest.dropWhile isNamePart).head? with
        | none => rfl
        | some d => simpa [hbehind] using hhead
      · simp [takeName, hc] at h

/-- A name that ends in front of a text ends in front of each piece that the text begins with. -/
theorem continuesName_of_append {s t : Text} (h : continuesName (s ++ t) = false) :
    continuesName s = false := by
  cases s with
  | nil => rfl
  | cons c s => exact h

/-- A name that was read ends in front of a text that does not continue it. -/
theorem continuesName_of_readLexeme {n : Nat} {c : Char} {rest behind : Text} {l : Lexeme}
    (h : readLexeme n c rest = .ok l) (hl : l.kind = .name)
    (hbehind : c :: rest = l.written ++ behind) : continuesName behind = false := by
  rw [Lexeme.written, hl] at hbehind
  obtain ⟨rfl, hrest⟩ := List.cons.inj hbehind
  simp only [readLexeme] at h
  split at h
  · cases h
  · rename_i hne
    cases h
    exact continuesName_behind hne hrest

/-- **More text behind it leaves a lexeme to be read**, possibly another one. -/
theorem exists_readLexeme_append {n : Nat} {c : Char} {rest : Text} {l : Lexeme}
    (h : readLexeme n c rest = .ok l) (k : Nat) (t : Text) :
    ∃ l', readLexeme k c (rest ++ t) = .ok l' := by
  obtain ⟨hvalid, -, hfinish, behind, hbehind⟩ := valid_of_readLexeme h
  by_cases hname : l.kind = .name
  · -- the name may go on in what follows, but it does not become empty
    rw [Lexeme.written, hname] at hbehind
    obtain ⟨rfl, rfl⟩ := List.cons.inj hbehind
    have hvalue : IsName l.value := by simpa [Lexeme.Valid, hname] using hvalid
    obtain ⟨d, v, hv⟩ := List.exists_cons_of_ne_nil hvalue.1
    have hd : isNameStart d := by
      have htake := hvalue.2
      by_contra hd
      rw [hv, takeName, if_neg hd] at htake
      cases htake
    simp [readLexeme, hv, takeName, hd]
  · obtain ⟨c', rest', hwritten, hread⟩ := readLexeme_written (l := { l with start := k })
      (t := behind ++ t) hvalid hfinish fun hkind => absurd hkind hname
    have htext : c :: (rest ++ t) = c' :: rest' := by
      rw [← hwritten, ← List.cons_append, hbehind, List.append_assoc]
      rfl
    obtain ⟨rfl, rfl⟩ := List.cons.inj htext
    exact ⟨_, hread⟩

/-! ### Cuts in front of lexemes -/

variable {policy : LexPolicy} {n : Nat} {t : Text} {front middle behind : List Lexeme}

/-- **Reading goes on in the same way from the start of any lexeme.** -/
theorem lexFrom_behind (h : lexFrom policy n t = .ok (front ++ behind)) (hne : behind ≠ []) :
    lexFrom policy (n + Text.utf8Size (spelling front)) (spelling behind) = .ok behind := by
  induction front generalizing n t with
  | nil =>
      obtain ⟨-, hspelling⟩ := placed_of_lexFrom h
      rwa [← hspelling] at h
  | cons l front ih =>
      cases t with
      | nil =>
          rw [lexFrom] at h
          simp_all
      | cons c rest =>
          obtain ⟨l', text, ls', hls, -, -, -, -, -, hbehind⟩ := exists_read_of_lexFrom h
          obtain ⟨rfl, rfl⟩ := List.cons.inj hls
          rw [spelling_cons, Text.utf8Size_append, ← Nat.add_assoc]
          exact ih hbehind

/-- The lexeme as far behind the byte `k` as it is behind the byte `n`. -/
def Lexeme.rebase (n k : Nat) (l : Lexeme) : Lexeme := { l with start := l.start - n + k }

/-- How a lexeme was read in front of the text `t`: as itself, or as a character at fault. -/
theorem read_cases {l : Lexeme} {ls : List Lexeme} (hne : l.written ≠ [])
    (h : lexFrom .lenient n (l.written ++ t) = .ok (l :: ls)) :
    (l.Valid ∧ l.kind ≠ .finish ∧ (l.kind = .name → continuesName t = false)) ∨
      ∃ c e, l = ⟨.invalid, n, [c]⟩ ∧ readLexeme n c t = .error e := by
  obtain ⟨c, w, hw⟩ := List.exists_cons_of_ne_nil hne
  rw [hw, List.cons_append] at h
  cases hread : readLexeme n c (w ++ t) with
  | ok l' =>
      rw [lexFrom_cons hread] at h
      obtain ⟨_, -, ⟨⟩⟩ := bind_eq_ok.1 h
      obtain ⟨hvalid, -, hfinish, -⟩ := valid_of_readLexeme hread
      exact .inl ⟨hvalid, hfinish, fun hname =>
        continuesName_of_readLexeme hread hname (by rw [hw, List.cons_append])⟩
  | error e =>
      rw [lexFrom_of_error hread] at h
      obtain ⟨_, -, ⟨⟩⟩ := bind_eq_ok.1 h
      obtain rfl : w = [] := (List.cons.inj hw).2.symm
      exact .inr ⟨c, e, rfl, hread⟩

/-- Lexemes that do not start before both bytes are moved alike by moving both bytes on. -/
theorem map_rebase_add {m k : Nat} {ls : List Lexeme} (h : ∀ l ∈ ls, n + m ≤ l.start) :
    ls.map (Lexeme.rebase (n + m) (k + m)) = ls.map (Lexeme.rebase n k) := by
  refine List.map_congr_left fun l hl => ?_
  have hle := h l hl
  have hstart : l.start - (n + m) + (k + m) = l.start - n + k := by omega
  simp only [Lexeme.rebase, hstart]

/-- A character that is at fault in a text is at fault in every piece that begins with it. -/
theorem lexFrom_invalid {k : Nat} {c : Char} {rest behind : Text} {e : Error} {ls : List Lexeme}
    (h : readLexeme n c (rest ++ behind) = .error e)
    (hls : lexFrom .lenient (k + Text.utf8Size [c]) rest = .ok ls) :
    lexFrom .lenient k (c :: rest) = .ok (⟨.invalid, k, [c]⟩ :: ls) := by
  cases hread : readLexeme k c rest with
  | ok l =>
      obtain ⟨l', hl'⟩ := exists_readLexeme_append hread n behind
      rw [h] at hl'
      cases hl'
  | error e => exact (lexFrom_of_error hread).trans (bind_eq_ok.2 ⟨ls, hls, rfl⟩)

/-- **Lexemes that follow one another are read from their own text alone**, wherever it starts. -/
theorem lexFrom_spelling (h : lexFrom .lenient n t = .ok (middle ++ behind)) (hne : behind ≠ [])
    (k : Nat) :
    lexFrom .lenient k (spelling middle) = .ok (middle.map (Lexeme.rebase n k) ++
      [⟨.finish, k + Text.utf8Size (spelling middle), []⟩]) := by
  induction middle generalizing n t k with
  | nil => exact lexFrom.eq_def .lenient k []
  | cons l middle ih =>
      obtain ⟨hplaced, rfl⟩ := placed_of_lexFrom h
      obtain ⟨rfl, -, hfinish, hne', hrest⟩ :=
        hplaced.cons_inv (List.append_ne_nil_of_right_ne_nil middle hne)
      have hbehind := lexFrom_behind (show _ = Except.ok ([l] ++ (middle ++ behind)) from h)
        (List.append_ne_nil_of_right_ne_nil middle hne)
      rw [spelling_cons, spelling_nil, List.append_nil] at hbehind
      have hmiddle := ih hbehind (k + Text.utf8Size l.written)
      rw [map_rebase_add fun l' hl' => hrest.le_start l' (List.mem_append_left _ hl')] at hmiddle
      have hfirst : l.rebase l.start k = { l with start := k } := by simp [Lexeme.rebase]
      rw [List.map_cons, hfirst, spelling_cons, Text.utf8Size_append, ← Nat.add_assoc,
        List.cons_append]
      rw [List.cons_append, spelling_cons, spelling_append] at h
      rcases read_cases hne' h with ⟨hvalid, hfinish, hname⟩ | ⟨c, e, hl, hread⟩
      · have hname' (hkind : l.kind = .name) := continuesName_of_append (hname hkind)
        exact (lexFrom_written .lenient (l := { l with start := k }) hvalid hfinish hname').trans
          (bind_eq_ok.2 ⟨_, hmiddle, rfl⟩)
      · rw [hl] at hmiddle ⊢
        exact lexFrom_invalid hread hmiddle

/-! ### Slices -/

/-- The lexeme starts between the bytes `i` and `j`. -/
def Lexeme.isBetween (i j : Nat) (l : Lexeme) : Bool := i ≤ l.start && l.start < j

theorem Lexeme.isBetween_iff {i j : Nat} {l : Lexeme} :
    l.isBetween i j ↔ i ≤ l.start ∧ l.start < j := by
  simp [isBetween]

/-- From a lexeme on, none starts before it. -/
theorem start_le_of_pairwise {l : Lexeme} {ls : List Lexeme}
    (h : (l :: ls).Pairwise (·.start < ·.start)) : ∀ l' ∈ l :: ls, l.start ≤ l'.start :=
  List.forall_mem_cons.2 ⟨Nat.le_refl _, fun _ hl => Nat.le_of_lt (List.rel_of_pairwise_cons h hl)⟩

/-- Between two lexemes stand those that start between them. -/
theorem exists_between {ls : List Lexeme} (h : ls.Pairwise (·.start < ·.start)) {a b : Lexeme}
    (ha : a ∈ ls) (hb : b ∈ ls) (hab : a.start ≤ b.start) :
    ∃ front behind, ls = front ++ (ls.filter (Lexeme.isBetween a.start b.start) ++ b :: behind) ∧
      startOf (ls.filter (Lexeme.isBetween a.start b.start) ++ b :: behind) = a.start := by
  obtain ⟨front, rest, rfl⟩ := List.append_of_mem ha
  obtain ⟨-, hrest, hfront⟩ := List.pairwise_append.1 h
  have hb' : b ∈ a :: rest := by
    rcases List.mem_append.1 hb with hb | hb
    · have hlt := hfront b hb a List.mem_cons_self
      omega
    · exact hb
  obtain ⟨middle, behind, hmiddle⟩ := List.append_of_mem hb'
  have hfrom := start_le_of_pairwise hrest
  rw [hmiddle] at hrest hfrom
  obtain ⟨-, hbehind, hbefore⟩ := List.pairwise_append.1 hrest
  have hfilter : (front ++ a :: rest).filter (Lexeme.isBetween a.start b.start) = middle := by
    have hfront' : front.filter (Lexeme.isBetween a.start b.start) = [] := by
      refine List.filter_eq_nil_iff.2 fun l hl => ?_
      have hlt := hfront l hl a List.mem_cons_self
      rw [Lexeme.isBetween_iff]
      omega
    have hmiddle' : middle.filter (Lexeme.isBetween a.start b.start) = middle := by
      refine List.filter_eq_self.2 fun l hl => ?_
      have hle := hfrom l (List.mem_append_left _ hl)
      have hlt := hbefore l hl b List.mem_cons_self
      exact Lexeme.isBetween_iff.2 ⟨hle, hlt⟩
    have hbehind' : (b :: behind).filter (Lexeme.isBetween a.start b.start) = [] := by
      refine List.filter_eq_nil_iff.2 fun l hl => ?_
      have hle := start_le_of_pairwise hbehind l hl
      rw [Lexeme.isBetween_iff]
      omega
    rw [hmiddle, List.filter_append, List.filter_append, hfront', hmiddle', hbehind',
      List.nil_append, List.append_nil]
  refine ⟨front, behind, by rw [hfilter, hmiddle], ?_⟩
  rw [hfilter, ← hmiddle]
  rfl

/-- **A slice of a text between two of its lexemes is read as the lexemes in it.** -/
theorem lex_slice {ls : List Lexeme} (h : lex .lenient t = .ok ls) {a b : Lexeme} (ha : a ∈ ls)
    (hb : b ∈ ls) (hab : a.start ≤ b.start) :
    ∃ v, t.slice? a.start b.start = some v ∧
      lex .lenient v = .ok ((ls.filter (Lexeme.isBetween a.start b.start)).map
        (Lexeme.rebase a.start 0) ++ [⟨.finish, Text.utf8Size v, []⟩]) := by
  obtain ⟨hplaced, rfl⟩ := placed_of_lexFrom h
  obtain ⟨front, behind, hls, hstart⟩ := exists_between hplaced.pairwise_start ha hb hab
  generalize ls.filter (Lexeme.isBetween a.start b.start) = middle at hls hstart ⊢
  subst hls
  have hne : middle ++ b :: behind ≠ [] := List.append_ne_nil_of_right_ne_nil middle (by simp)
  have hslice := hplaced.slice? (List.cons_ne_nil b behind)
  have hmiddle := lexFrom_behind h hne
  rw [← (hplaced.append hne).startOf_eq, hstart] at hmiddle
  rw [hstart] at hslice
  have hread := lexFrom_spelling hmiddle (List.cons_ne_nil b behind) 0
  rw [Nat.zero_add] at hread
  exact ⟨_, hslice, hread⟩

end UrlMatch.Pattern
