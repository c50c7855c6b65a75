import UrlMatch.Proofs.Pattern.Lexemes

/-!
# Where lexemes stand

The lexemes of a text stand one behind the other: each starts at the byte behind the one before
it, their written forms make up the text, and the end stands behind the last of them. This holds
under both policies. Hence any lexemes that follow one another are a slice of the text, from the
start of the first of them up to the start of the lexeme behind them.

## Main results

* `Text.slice?`: the piece of a text between two bytes, if both are between characters.
* `placed_of_lexFrom`: what reading gives is placed, and its written forms make up the text.
* `Placed.slice?`: lexemes that follow one another are a slice of the text.
* `lex_covers`: reading loses nothing, and each lexeme is read again from its slice alone.
-/

namespace UrlMatch

namespace Text

/-! ### Slices of a text -/

/-- Cuts a text behind its first bytes, unless they end inside a character or behind the end. -/
def cutBytes? : Nat → Text → Option (Text × Text)
  | 0, t => some ([], t)
  | _ + 1, [] => none
  | n + 1, c :: t =>
    if c.utf8Size ≤ n + 1 then (cutBytes? (n + 1 - c.utf8Size) t).map fun r => (c :: r.1, r.2)
    else none

/-- The piece of a text from the byte `i` up to the byte `j`, if both are between characters. -/
def slice? (t : Text) (i j : Nat) : Option Text :=
  if i ≤ j then do
    let (_, behind) ← cutBytes? i t
    let (piece, _) ← cutBytes? (j - i) behind
    return piece
  else none

/-- Every character takes at least one byte. -/
theorem utf8Size_pos {t : Text} (h : t ≠ []) : 0 < utf8Size t := by
  obtain ⟨c, t, rfl⟩ := List.exists_cons_of_ne_nil h
  exact Nat.add_pos_left c.utf8Size_pos _

theorem cutBytes?_append (s t : Text) : cutBytes? (utf8Size s) (s ++ t) = some (s, t) := by
  induction s with
  | nil =>
      cases t with
      | nil => rfl
      | cons c t => rfl
  | cons c s ih =>
      have hpos : 0 < c.utf8Size := Char.utf8Size_pos c
      obtain ⟨n, hn⟩ : ∃ n, utf8Size (c :: s) = n + 1 :=
        ⟨utf8Size (c :: s) - 1, by rw [utf8Size_cons]; omega⟩
      have hle : c.utf8Size ≤ n + 1 := by
        rw [← hn, utf8Size_cons]
        omega
      have hrest : n + 1 - c.utf8Size = utf8Size s := by
        rw [← hn, utf8Size_cons]
        omega
      rw [hn, List.cons_append, cutBytes?, if_pos hle, hrest, ih]
      rfl

/-- A piece is the slice between the byte behind what precedes it and the one behind itself. -/
theorem slice?_append (s w t : Text) :
    slice? (s ++ w ++ t) (utf8Size s) (utf8Size s + utf8Size w) = some w := by
  rw [slice?, if_pos (Nat.le_add_right _ _), List.append_assoc, cutBytes?_append,
    Nat.add_sub_cancel_left]
  simp [cutBytes?_append]

end Text

namespace Pattern

/-! ### Lexemes of both policies -/

namespace Lexeme

/-- A lexeme as reading gives it under either policy. -/
def Read (l : Lexeme) : Prop := l.Valid ∨ (l.kind = .invalid ∧ ∃ c, l.value = [c])

/-- A sign stands for itself, plainly or behind a backslash. -/
def Spells (l : Lexeme) (c : Char) : Prop := l.written = [c] ∨ l.written = ['\\', c]

end Lexeme

/-- Where no lexeme can be read, lenient reading goes on behind the character at fault. -/
theorem lexFrom_of_error {start : Nat} {c : Char} {rest : Text} {e : Error}
    (h : readLexeme start c rest = .error e) :
    lexFrom .lenient start (c :: rest) = (do
      return ⟨.invalid, start, [c]⟩ :: (← lexFrom .lenient (start + Text.utf8Size [c]) rest)) := by
  rw [lexFrom.eq_def]
  simp only [h]
  rfl

/-- Reading takes a lexeme from the front of a text and goes on behind it. -/
theorem exists_read_of_lexFrom {policy : LexPolicy} {start : Nat} {c : Char} {rest : Text}
    {ls : List Lexeme} (h : lexFrom policy start (c :: rest) = .ok ls) :
    ∃ l behind ls', ls = l :: ls' ∧ l.Read ∧ l.start = start ∧ l.kind ≠ .finish ∧
      l.written ≠ [] ∧ c :: rest = l.written ++ behind ∧
      lexFrom policy (start + Text.utf8Size l.written) behind = .ok ls' := by
  cases hread : readLexeme start c rest with
  | ok l =>
      obtain ⟨hvalid, hstart, hfinish, behind, hbehind⟩ := valid_of_readLexeme hread
      have hne := hvalid.written_ne_nil hfinish
      rw [lexFrom_cons hread, drop_written hne hbehind] at h
      obtain ⟨ls', hls', ⟨⟩⟩ := bind_eq_ok.1 h
      exact ⟨l, behind, ls', rfl, .inl hvalid, hstart, hfinish, hne, hbehind, hls'⟩
  | error e =>
      cases policy with
      | strict =>
          obtain ⟨l, hl⟩ := exists_lexeme_of_lexFrom h
          rw [hread] at hl
          cases hl
      | lenient =>
          rw [lexFrom_of_error hread] at h
          obtain ⟨ls', hls', ⟨⟩⟩ := bind_eq_ok.1 h
          exact ⟨_, rest, ls', rfl, .inr ⟨rfl, c, rfl⟩, rfl, by simp, by simp [Lexeme.written],
            rfl, hls'⟩

/-- Lenient reading never fails. -/
theorem exists_lexFrom_lenient (start : Nat) (t : Text) :
    ∃ ls, lexFrom .lenient start t = .ok ls := by
  induction hn : t.length using Nat.strong_induction_on generalizing t start with
  | _ n ih =>
      cases t with
      | nil => exact ⟨_, lexFrom.eq_def .lenient start []⟩
      | cons c rest =>
          have hlt (k : Nat) : (rest.drop k).length < n := by
            rw [← hn, List.length_cons, List.length_drop]
            omega
          cases hread : readLexeme start c rest with
          | ok l =>
              obtain ⟨ls, hls⟩ := ih _ (hlt (l.written.length - 1))
                (start + Text.utf8Size l.written) _ rfl
              exact ⟨l :: ls, (lexFrom_cons hread).trans (bind_eq_ok.2 ⟨ls, hls, rfl⟩)⟩
          | error e =>
              obtain ⟨ls, hls⟩ := ih _ (hlt 0) (start + Text.utf8Size [c]) _ rfl
              exact ⟨_ :: ls, (lexFrom_of_error hread).trans (bind_eq_ok.2 ⟨ls, hls, rfl⟩)⟩

/-! ### Places -/

/-- The text that lexemes were read from. -/
def spelling (ls : List Lexeme) : Text := ls.flatMap Lexeme.written

@[simp] theorem spelling_nil : spelling [] = [] := rfl

@[simp] theorem spelling_cons (l : Lexeme) (ls : List Lexeme) :
    spelling (l :: ls) = l.written ++ spelling ls := rfl

@[simp] theorem spelling_append (ls ls' : List Lexeme) :
    spelling (ls ++ ls') = spelling ls ++ spelling ls' := List.flatMap_append

/-- The byte at which lexemes start. -/
def startOf (ls : List Lexeme) : Nat := (ls.head?.map (·.start)).getD 0

theorem exists_mem_start {ls : List Lexeme} (h : ls ≠ []) : ∃ l ∈ ls, l.start = startOf ls := by
  obtain ⟨l, rest, rfl⟩ := List.exists_cons_of_ne_nil h
  exact ⟨l, List.mem_cons_self, rfl⟩

/-- Lexemes that stand one behind the other from a byte on, up to the end. -/
inductive Placed : Nat → List Lexeme → Prop
  | finish (n : Nat) : Placed n [⟨.finish, n, []⟩]
  | cons {l : Lexeme} {ls : List Lexeme} : l.Read → l.kind ≠ .finish → l.written ≠ [] →
      Placed (l.start + Text.utf8Size l.written) ls → Placed l.start (l :: ls)

/-- **What reading gives is placed**, and its written forms make up the text. -/
theorem placed_of_lexFrom {policy : LexPolicy} {start : Nat} {t : Text} {ls : List Lexeme}
    (h : lexFrom policy start t = .ok ls) : Placed start ls ∧ spelling ls = t := by
  induction hn : t.length using Nat.strong_induction_on generalizing t start ls with
  | _ n ih =>
      cases t with
      | nil =>
          rw [lexFrom] at h
          cases h
          exact ⟨.finish start, rfl⟩
      | cons c rest =>
          obtain ⟨l, behind, ls', rfl, hread, rfl, hfinish, hne, htext, hbehind⟩ :=
            exists_read_of_lexFrom h
          have hlt : behind.length < n := by
            have := List.length_pos_iff.2 hne
            rw [← hn, htext, List.length_append]
            omega
          obtain ⟨hplaced, hspelling⟩ := ih _ hlt hbehind rfl
          rw [spelling_cons, hspelling, htext]
          exact ⟨.cons hread hfinish hne hplaced, rfl⟩

/-- The lexeme at the front of a text that is read starts with the same character. -/
theorem head_written_of_lexFrom {policy : LexPolicy} {start : Nat} {t : Text} {l : Lexeme}
    {ls : List Lexeme} (h : lexFrom policy start t = .ok (l :: ls)) (hinvalid : l.kind ≠ .invalid)
    (hfinish : l.kind ≠ .finish) : l.Valid ∧ l.written.head? = t.head? := by
  obtain ⟨hplaced, rfl⟩ := placed_of_lexFrom h
  cases hplaced with
  | finish => exact absurd rfl hfinish
  | cons hread _ hne _ =>
      refine ⟨hread.resolve_right fun hl => hinvalid hl.1, ?_⟩
      obtain ⟨c, w, hc⟩ := List.exists_cons_of_ne_nil hne
      simp [hc]

namespace Placed

variable {n : Nat} {ls front behind : List Lexeme}

theorem ne_nil (h : Placed n ls) : ls ≠ [] := by
  cases h <;> simp

theorem startOf_eq (h : Placed n ls) : startOf ls = n := by
  cases h <;> rfl

theorem start_head? (h : Placed n ls) : ls.head?.map (·.start) = some n := by
  cases h <;> rfl

theorem read (h : Placed n ls) : ∀ l ∈ ls, l.Read := by
  induction h with
  | finish n => exact List.forall_mem_singleton.2 (.inl rfl)
  | cons hread _ _ _ ih => exact List.forall_mem_cons.2 ⟨hread, ih⟩

/-- A lexeme with others behind it, taken apart. -/
theorem cons_inv {l : Lexeme} (h : Placed n (l :: ls)) (hne : ls ≠ []) :
    l.start = n ∧ l.Read ∧ l.kind ≠ .finish ∧ l.written ≠ [] ∧
      Placed (n + Text.utf8Size l.written) ls := by
  cases h with
  | finish n => exact absurd rfl hne
  | cons hread hfinish hwritten hplaced => exact ⟨rfl, hread, hfinish, hwritten, hplaced⟩

/-- Behind a lexeme that is not the end stand others. -/
theorem rest_ne_nil {l : Lexeme} (h : Placed n (l :: ls)) (hl : l.kind ≠ .finish) : ls ≠ [] := by
  cases h with
  | finish n => exact absurd rfl hl
  | cons _ _ _ hplaced => exact hplaced.ne_nil

/-- Behind its first lexemes a placed list is placed. -/
theorem append (h : Placed n (front ++ behind)) (hne : behind ≠ []) :
    Placed (n + Text.utf8Size (spelling front)) behind := by
  induction front generalizing n with
  | nil => exact h
  | cons l front ih =>
      obtain ⟨rfl, -, -, -, hplaced⟩ := h.cons_inv (List.append_ne_nil_of_right_ne_nil front hne)
      rw [spelling_cons, Text.utf8Size_append, ← Nat.add_assoc]
      exact ih hplaced

/-- Behind the end stands nothing. -/
theorem eq_finish {l : Lexeme} (h : Placed n (l :: ls)) (hl : l.kind = .finish) :
    l = ⟨.finish, n, []⟩ ∧ ls = [] := by
  cases h with
  | finish n => exact ⟨rfl, rfl⟩
  | cons _ hfinish _ _ => exact absurd hl hfinish

/-- **Lexemes that follow one another are a slice of the text** that they are lexemes of, from
where they start up to where the lexeme behind them starts. -/
theorem slice? {middle : List Lexeme} (h : Placed 0 (front ++ (middle ++ behind)))
    (hne : behind ≠ []) :
    Text.slice? (spelling (front ++ (middle ++ behind))) (startOf (middle ++ behind))
      (startOf behind) = some (spelling middle) := by
  have hmiddle := h.append (List.append_ne_nil_of_right_ne_nil middle hne)
  have hbehind := hmiddle.append hne
  rw [hmiddle.startOf_eq, hbehind.startOf_eq, Nat.zero_add, spelling_append, spelling_append,
    ← List.append_assoc]
  exact Text.slice?_append _ _ _

/-- No lexeme starts before the first one. -/
theorem le_start (h : Placed n ls) : ∀ l ∈ ls, n ≤ l.start := by
  induction h with
  | finish n => exact List.forall_mem_singleton.2 (Nat.le_refl n)
  | cons _ _ _ _ ih =>
      refine List.forall_mem_cons.2 ⟨Nat.le_refl _, fun l hl => ?_⟩
      exact Nat.le_trans (Nat.le_add_right _ _) (ih l hl)

/-- Each lexeme starts behind the ones before it. -/
theorem pairwise_start (h : Placed n ls) : ls.Pairwise (·.start < ·.start) := by
  induction h with
  | finish n => exact List.pairwise_singleton _ _
  | cons _ _ hne hplaced ih =>
      refine .cons (fun l hl => ?_) ih
      have hpos := Text.utf8Size_pos hne
      have hle := hplaced.le_start l hl
      omega

/-- The end is the last lexeme and no other, and stands behind the text. -/
theorem exists_append_finish (h : Placed n ls) :
    ∃ front, ls = front ++ [⟨.finish, n + Text.utf8Size (spelling ls), []⟩] ∧
      ∀ l ∈ front, l.kind ≠ .finish := by
  induction h with
  | finish n => exact ⟨[], rfl, nofun⟩
  | @cons l ls _ hfinish _ _ ih =>
      obtain ⟨front, hls, hfront⟩ := ih
      refine ⟨l :: front, ?_, List.forall_mem_cons.2 ⟨hfinish, hfront⟩⟩
      rw [spelling_cons, Text.utf8Size_append, ← Nat.add_assoc, List.cons_append, ← hls]

end Placed

/-! ### Lexemes that cover a text -/

/-- The lexemes of a text, none of which is lost. -/
structure Covers (t : Text) (ls : List Lexeme) : Prop where
  /-- The first lexeme starts where the text does. -/
  first : ls.head?.map (·.start) = some 0
  /-- Each lexeme starts behind the ones before it. -/
  increasing : ls.Pairwise (·.start < ·.start)
  /-- The end is the last lexeme and no other, and stands behind the last byte. -/
  finish : ∃ front, ls = front ++ [⟨.finish, Text.utf8Size t, []⟩] ∧
    ∀ l ∈ front, l.kind ≠ .finish
  /-- From its start to the start of the next one, a lexeme is what it was read from. -/
  slices : ∀ l next, [l, next] <:+: ls → t.slice? l.start next.start = some l.written

/-- Placed lexemes cover the text that they spell. -/
theorem Placed.covers {ls : List Lexeme} (h : Placed 0 ls) : Covers (spelling ls) ls where
  first := h.start_head?
  increasing := h.pairwise_start
  finish := by simpa using h.exists_append_finish
  slices := by
    rintro l next ⟨front, behind, hls⟩
    have hls : front ++ ([l] ++ next :: behind) = ls := by simpa using hls
    have hslice := (hls.symm ▸ h).slice? (List.cons_ne_nil next behind)
    rwa [hls, spelling_cons, spelling_nil, List.append_nil] at hslice

/-- A lexeme is read again from its written form alone, under both policies. -/
theorem Lexeme.Valid.lex_written {l : Lexeme} (h : l.Valid) (hf : l.kind ≠ .finish)
    (policy : LexPolicy) :
    lex policy l.written =
      .ok [{ l with start := 0 }, ⟨.finish, Text.utf8Size l.written, []⟩] := by
  have hread := lexFrom_written policy (l := { l with start := 0 }) h hf (t := []) fun _ => rfl
  rw [List.append_nil, lexFrom, Nat.zero_add] at hread
  exact hread

/-- **Reading loses nothing.** Lenient reading never fails. What reading gives under either policy
starts at the first byte of the text and ends behind the last one, and each lexeme is the slice of
the text up to the next one. The slice of a lexeme that is not a character at fault is read as this
lexeme alone. -/
theorem lex_covers (t : Text) :
    (∃ ls, lex .lenient t = .ok ls) ∧
      ∀ policy ls, lex policy t = .ok ls → Covers t ls ∧
        ∀ l ∈ ls, l.kind ≠ .finish → l.kind ≠ .invalid → ∀ policy', lex policy' l.written =
          .ok [{ l with start := 0 }, ⟨.finish, Text.utf8Size l.written, []⟩] := by
  refine ⟨exists_lexFrom_lenient 0 t, fun policy ls h => ?_⟩
  obtain ⟨hplaced, rfl⟩ := placed_of_lexFrom h
  refine ⟨hplaced.covers, fun l hl hfinish hinvalid => ?_⟩
  rcases hplaced.read l hl with hvalid | ⟨hkind, -⟩
  · exact hvalid.lex_written hfinish
  · exact absurd hkind hinvalid

end Pattern

end UrlMatch
