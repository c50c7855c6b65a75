import UrlMatch.Proofs.Pattern.Front

/-!
# Pairs of braces

`render` writes braces around text with a modifier, and around a capture where the parts on both
sides ask for it. In what it writes these are the only braces that are read as braces: the text of
a part has none, as a brace that belongs to a text is escaped, and one that belongs to a regular
expression is read with it.

## Main results

* `WritesBraces`: the pairs that `render` writes.
* `writesBraces_of_isRead`: wherever a pair is read, `render` wrote it.
* `WritesBraces.exists_of_isRead`: every pair that `render` writes is read as one.
-/

namespace UrlMatch.Pattern

/-- The pairs of braces in what `render` writes for parts: the text in front of the pair, the text
between its braces and the text behind it. -/
inductive WritesBraces (o : ReadOptions) : Option Part → List Part → Text → Text → Text → Prop
  | fixed {previous : Option Part} {v : Text} {m : Modifier} {parts : List Part} : m ≠ .once →
      WritesBraces o previous (.fixed v m :: parts) [] (escape v)
        (m.text ++ renderFrom o (some (.fixed v m)) parts)
  | capture {previous : Option Part} {c : Capture} {parts : List Part} :
      c.needsBraces o previous parts.head? →
      WritesBraces o previous (.capture c :: parts) [] (c.renderBody o true previous)
        (c.modifier.text ++ renderFrom o (some (.capture c)) parts)
  | behind {previous : Option Part} {p : Part} {parts : List Part} {before body after : Text} :
      WritesBraces o (some p) parts before body after →
      WritesBraces o previous (p :: parts) (p.render o previous parts.head? ++ before) body after

variable {o : ReadOptions} {previous : Option Part} {parts : List Part} {before body after : Text}
  {t u v w : Text} {m : Modifier} {ls : List Lexeme}

/-- With its braces the text is what `render` writes. -/
theorem WritesBraces.renderFrom_eq (h : WritesBraces o previous parts before body after) :
    renderFrom o previous parts = before ++ '\x7b' :: (body ++ '\x7d' :: after) := by
  induction h with
  | fixed hm => simp [renderFrom, Part.render_fixed hm]
  | capture hb => simp [renderFrom, Part.render, Capture.render_of_needsBraces hb]
  | behind _ ih => simp [renderFrom, ih]

/-! ### Text without braces -/

/-- A lexeme that is a brace. -/
def Lexeme.IsBrace (l : Lexeme) : Prop := l.kind = .opening ∨ l.kind = .closing

/-- In front of the text `t`, the text `w` is read as lexemes of its own, none of them a brace. -/
def Unbraced (w t : Text) : Prop :=
  ∀ ls, IsRead (w ++ t) ls → ∃ front behind, ls = front ++ behind ∧ spelling front = w ∧
    (∀ l ∈ front, ¬ l.IsBrace) ∧ IsRead t behind

theorem unbraced_nil (t : Text) : Unbraced [] t := fun ls h => ⟨[], ls, rfl, rfl, by simp, h⟩

theorem Unbraced.append (hu : Unbraced u (w ++ t)) (hw : Unbraced w t) : Unbraced (u ++ w) t := by
  intro ls h
  rw [List.append_assoc] at h
  obtain ⟨front, rest, rfl, rfl, hfront, hrest⟩ := hu ls h
  obtain ⟨front', behind, rfl, rfl, hfront', hbehind⟩ := hw rest hrest
  exact ⟨front ++ front', behind, (List.append_assoc ..).symm, spelling_append .., by
    simpa [or_imp, forall_and] using ⟨hfront, hfront'⟩, hbehind⟩

/-- A lexeme that is no brace. -/
theorem unbraced_written {k : LexemeKind} {v : Text} (hv : (⟨k, 0, v⟩ : Lexeme).Valid)
    (hfinish : k ≠ .finish) (hbrace : k ≠ .opening ∧ k ≠ .closing)
    (hname : k = .name → continuesName t = false) : Unbraced (⟨k, 0, v⟩ : Lexeme).written t := by
  intro ls h
  obtain ⟨start, behind, rfl, hbehind⟩ :=
    ((lexes_isRead t).written hv hfinish hname).of_isRead h
  refine ⟨[⟨k, start, v⟩], behind, rfl, List.append_nil _, ?_, hbehind⟩
  simpa [Lexeme.IsBrace] using hbrace

theorem unbraced_text (hw : SpellsText v w) (t : Text) : Unbraced w t := by
  induction hw with
  | nil => exact unbraced_nil t
  | @plain c v w hc _ ih =>
      exact (unbraced_written (k := .char) (v := [c]) ⟨c, rfl, .inl hc⟩ (by simp) (by simp)
        (by simp)).append ih
  | @escaped c v w _ ih =>
      exact (unbraced_written (k := .escapedChar) (v := [c]) ⟨c, rfl⟩ (by simp) (by simp)
        (by simp)).append ih

theorem unbraced_core {core : Core} (hw : core.Spells w) (ht : core.EndsBefore t) :
    Unbraced w t := by
  have hregexp {r : Text} (hr : IsRegexp r) : Unbraced ('(' :: r ++ [')']) t :=
    unbraced_written (k := .regexp) (v := r) hr (by simp) (by simp) (by simp)
  cases hw with
  | @name n hn =>
      exact unbraced_written (k := .name) (v := n) hn (by simp) (by simp) fun _ => ht.1
  | regexp hr => exact hregexp hr
  | @nameRegexp n r hn hr =>
      rw [List.append_assoc]
      exact (unbraced_written (k := .name) (v := n) hn (by simp) (by simp)
        (fun _ => rfl)).append (hregexp hr)
  | asterisk =>
      exact unbraced_written (k := .asterisk) (v := ['*']) rfl (by simp) (by simp) (by simp)

theorem unbraced_modifier (m : Modifier) (t : Text) : Unbraced m.text t := by
  cases m with
  | once => exact unbraced_nil t
  | optional =>
      exact unbraced_written (k := .modifier) (v := ['?']) (.inr rfl) (by simp) (by simp) (by simp)
  | zeroOrMore =>
      exact unbraced_written (k := .asterisk) (v := ['*']) rfl (by simp) (by simp) (by simp)
  | oneOrMore =>
      exact unbraced_written (k := .modifier) (v := ['+']) (.inl rfl) (by simp) (by simp) (by simp)

/-- Between braces a capture is written without any. -/
theorem unbraced_renderBody {c : Capture} (hc : c.Valid o) :
    Unbraced (c.renderBody o true previous) ('\x7d' :: t) := by
  rw [Capture.renderBody_eq]
  refine (unbraced_text (spellsText_escape c.lead) _).append
    ((unbraced_core (spells_core hc true previous) ?_).append
      (unbraced_text (spellsText_trail c) _))
  exact endsBefore_trail o c t

/-! ### Braces -/

/-- A brace is none of the lexemes in front of it that are no braces. -/
theorem exists_of_append_brace {f front behind rest : List Lexeme} {l : Lexeme} (hl : l.IsBrace)
    (hfront : ∀ l ∈ front, ¬ l.IsBrace) (h : f ++ l :: rest = front ++ behind) :
    ∃ f', f = front ++ f' ∧ behind = f' ++ l :: rest := by
  rcases List.append_eq_append_iff.1 h with ⟨middle, rfl, hmiddle⟩ | ⟨f', rfl, hbehind⟩
  · cases middle with
    | nil => exact ⟨[], by simp, by simpa using hmiddle.symm⟩
    | cons l' middle =>
        obtain ⟨rfl, -⟩ := List.cons.inj hmiddle
        exact absurd hl (hfront l (by simp))
  · exact ⟨f', rfl, hbehind⟩

variable {p : Part} {f b r : List Lexeme} {opening closing : Lexeme}

/-- Behind a part without braces, the pair is one of the parts behind it. -/
theorem exists_of_unbraced (hw : Unbraced w t) (hopening : opening.kind = .opening)
    (h : IsRead (w ++ t) (f ++ opening :: r)) :
    ∃ f', spelling f = w ++ spelling f' ∧ IsRead t (f' ++ opening :: r) := by
  obtain ⟨front, behind, heq, rfl, hfront, hbehind⟩ := hw _ h
  obtain ⟨f', rfl, rfl⟩ := exists_of_append_brace (.inl hopening) hfront heq
  exact ⟨f', spelling_append front f', hbehind⟩

/-- A text in braces is read as a pair of braces around the lexemes of the text. -/
theorem IsRead.braced (h : IsRead ('\x7b' :: (w ++ '\x7d' :: t)) ls)
    (hw : Unbraced w ('\x7d' :: t)) :
    ∃ opening front closing behind, ls = opening :: (front ++ closing :: behind) ∧
      (opening.kind = .opening ∧ opening.written = ['\x7b']) ∧
      (closing.kind = .closing ∧ closing.written = ['\x7d']) ∧
      spelling front = w ∧ (∀ l ∈ front, ¬ l.IsBrace) ∧ IsRead t behind := by
  obtain ⟨k, ls, rfl, hls⟩ := ((lexes_isRead _).written (k := .opening) (v := ['\x7b']) rfl
    (by simp) (by simp)).of_isRead h
  obtain ⟨front, behind, rfl, hspelling, hfront, hbehind⟩ := hw ls hls
  obtain ⟨k', rest, rfl, hrest⟩ := ((lexes_isRead _).written (k := .closing)
    (v := ['\x7d']) rfl (by simp) (by simp)).of_isRead hbehind
  exact ⟨_, front, _, rest, rfl, ⟨rfl, rfl⟩, ⟨rfl, rfl⟩, hspelling, hfront, hrest⟩

/-- A pair is the one at the front, or one behind it. -/
theorem exists_of_braced (hw : Unbraced w ('\x7d' :: t)) (hopening : opening.kind = .opening)
    (hclosing : closing.kind = .closing) (hb : ∀ l ∈ b, ¬ l.IsBrace)
    (h : IsRead ('\x7b' :: (w ++ '\x7d' :: t)) (f ++ opening :: (b ++ closing :: r))) :
    f = [] ∧ spelling b = w ∧ spelling r = t ∨
      ∃ f', spelling f = '\x7b' :: (w ++ '\x7d' :: spelling f') ∧
        IsRead t (f' ++ opening :: (b ++ closing :: r)) := by
  obtain ⟨opening', front, closing', behind, hall, ⟨-, hopening'⟩, ⟨hclosing', hwritten⟩, rfl,
    hfront, hbehind⟩ := h.braced hw
  cases f with
  | nil =>
      left
      obtain ⟨rfl, hinner⟩ := List.cons.inj hall
      obtain ⟨b', rfl, heq⟩ := exists_of_append_brace (.inr hclosing) hfront hinner
      cases b' with
      | nil =>
          obtain ⟨rfl, rfl⟩ := List.cons.inj heq
          obtain ⟨n, hn⟩ := hbehind
          exact ⟨rfl, by simp, (placed_of_lexFrom hn).2⟩
      | cons l b' =>
          obtain ⟨rfl, -⟩ := List.cons.inj heq
          exact absurd (.inr hclosing') (hb closing' (by simp))
  | cons l f =>
      right
      obtain ⟨rfl, hinner⟩ := List.cons.inj hall
      obtain ⟨f', rfl, heq⟩ := exists_of_append_brace (.inl hopening) hfront hinner
      cases f' with
      | nil =>
          obtain ⟨rfl, -⟩ := List.cons.inj heq
          cases hopening.symm.trans hclosing'
      | cons l f' =>
          obtain ⟨rfl, rfl⟩ := List.cons.inj heq
          exact ⟨f', by simp [hopening', hwritten], hbehind⟩

/-! ### Parts -/

/-- The parts behind a well-formed part are well-formed. -/
theorem WellFormed.tail {behindText : Bool} {names : Naming}
    (h : WellFormed o behindText names (p :: parts)) :
    ∃ behindText' names', WellFormed o behindText' names' parts := by
  cases p with
  | fixed v m => exact ⟨_, _, h.2.2⟩
  | capture c =>
      obtain ⟨-, names', -, hparts⟩ := h
      exact ⟨false, names', hparts⟩

/-- A part is written without braces, or in a pair of them in front of its modifier. -/
theorem unbraced_or_braced (ho : o.Neutral) {behindText : Bool} {names : Naming}
    (hwf : WellFormed o behindText names (p :: parts)) (previous : Option Part) :
    Unbraced (p.render o previous parts.head?) (renderFrom o (some p) parts) ∨
      ∃ (w : Text) (m : Modifier),
        p.render o previous parts.head? = '\x7b' :: (w ++ '\x7d' :: m.text) ∧
        Unbraced w ('\x7d' :: (m.text ++ renderFrom o (some p) parts)) ∧
        WritesBraces o previous (p :: parts) [] w (m.text ++ renderFrom o (some p) parts) := by
  cases p with
  | fixed v m =>
      have hv t := unbraced_text (spellsText_escape v) t
      by_cases hm : m = .once
      · subst hm
        exact .inl (hv _)
      · exact .inr ⟨escape v, m, Part.render_fixed hm, hv _, .fixed hm⟩
  | capture c =>
      obtain ⟨hc, names', -, hparts⟩ := hwf
      by_cases hneeds : c.needsBraces o previous parts.head?
      · exact .inr ⟨_, c.modifier, Capture.render_of_needsBraces hneeds, unbraced_renderBody hc,
          .capture hneeds⟩
      · have hneeds : c.needsBraces o previous parts.head? = false := by simpa using hneeds
        have hend := endsBefore_renderFrom ho hneeds hparts
        rw [Part.render, Capture.render_of_not_needsBraces hneeds]
        exact .inl <| (unbraced_text (spellsText_escape c.lead) _).append <|
          (unbraced_core (spells_core hc false previous) hend).append <|
            unbraced_modifier c.modifier _

/-- **Wherever a pair of braces is read** in what `render` writes for well-formed parts, it is one
of the pairs that `render` writes. -/
theorem writesBraces_of_isRead (ho : o.Neutral) {behindText : Bool} {names : Naming}
    (hwf : WellFormed o behindText names parts) (hopening : opening.kind = .opening)
    (hclosing : closing.kind = .closing) (hb : ∀ l ∈ b, ¬ l.IsBrace)
    (h : IsRead (renderFrom o previous parts) (f ++ opening :: (b ++ closing :: r))) :
    WritesBraces o previous parts (spelling f) (spelling b) (spelling r) := by
  induction parts generalizing previous behindText names f with
  | nil =>
      obtain ⟨n, hn⟩ := h
      have hmem : opening ∈ f ++ opening :: (b ++ closing :: r) := by simp
      rw [renderFrom, lexFrom] at hn
      rw [← Except.ok.inj hn, List.mem_singleton] at hmem
      rw [hmem] at hopening
      cases hopening
  | cons p parts ih =>
      obtain ⟨_, _, htail⟩ := hwf.tail
      rcases unbraced_or_braced ho hwf previous with hp | ⟨w, m, hrender, hw, hfirst⟩
      · obtain ⟨f', hf, hread⟩ := exists_of_unbraced hp hopening h
        exact hf ▸ (ih htail hread).behind
      · have h : IsRead ('\x7b' :: (w ++ '\x7d' :: (m.text ++ renderFrom o (some p) parts)))
            (f ++ opening :: (b ++ closing :: r)) := by
          simpa [renderFrom, hrender] using h
        rcases exists_of_braced hw hopening hclosing hb h with ⟨rfl, rfl, hr⟩ | ⟨f', hf, hread⟩
        · exact hr ▸ hfirst
        · obtain ⟨f'', hf', hread⟩ := exists_of_unbraced (unbraced_modifier m _) hopening hread
          have hf : spelling f = p.render o previous parts.head? ++ spelling f'' := by
            simp [hf, hf', hrender]
          exact hf ▸ (ih htail hread).behind

/-- What is read at the front of well-formed parts is written for the first one. -/
theorem exists_of_render (ho : o.Neutral) {behindText : Bool} {names : Naming}
    (hwf : WellFormed o behindText names (p :: parts))
    (h : IsRead (renderFrom o previous (p :: parts)) ls) :
    ∃ front behind, ls = front ++ behind ∧ spelling front = p.render o previous parts.head? ∧
      IsRead (renderFrom o (some p) parts) behind := by
  rcases unbraced_or_braced ho hwf previous with hp | ⟨w, m, hrender, hw, -⟩
  · obtain ⟨front, behind, hls, hfront, -, hbehind⟩ := hp ls h
    exact ⟨front, behind, hls, hfront, hbehind⟩
  · have h : IsRead ('\x7b' :: (w ++ '\x7d' :: (m.text ++ renderFrom o (some p) parts))) ls := by
      simpa [renderFrom, hrender] using h
    obtain ⟨opening, inner, closing, rest, rfl, ⟨-, hopening⟩, ⟨-, hclosing⟩, rfl, -, hrest⟩ :=
      h.braced hw
    obtain ⟨front, behind, rfl, hfront, -, hbehind⟩ := unbraced_modifier m _ rest hrest
    refine ⟨opening :: (inner ++ closing :: front), behind, by simp, ?_, hbehind⟩
    simp [hopening, hclosing, hfront, hrender]

/-- **Every pair of braces that `render` writes** for well-formed parts is read as one. -/
theorem WritesBraces.exists_of_isRead (ho : o.Neutral) {behindText : Bool} {names : Naming}
    (hwf : WellFormed o behindText names parts)
    (hwrites : WritesBraces o previous parts before body after)
    (h : IsRead (renderFrom o previous parts) ls) :
    ∃ f opening b closing r, ls = f ++ opening :: (b ++ closing :: r) ∧
      opening.kind = .opening ∧ closing.kind = .closing ∧ (∀ l ∈ b, ¬ l.IsBrace) ∧
      spelling f = before ∧ spelling b = body ∧ spelling r = after := by
  have hbraced {w t : Text} {ls : List Lexeme} (hw : Unbraced w ('\x7d' :: t))
      (h : IsRead ('\x7b' :: (w ++ '\x7d' :: t)) ls) :
      ∃ f opening b closing r, ls = f ++ opening :: (b ++ closing :: r) ∧
        opening.kind = .opening ∧ closing.kind = .closing ∧ (∀ l ∈ b, ¬ l.IsBrace) ∧
        spelling f = [] ∧ spelling b = w ∧ spelling r = t := by
    obtain ⟨opening, b, closing, r, rfl, hopening, hclosing, hspelling, hb, n, hn⟩ := h.braced hw
    exact ⟨[], opening, b, closing, r, rfl, hopening.1, hclosing.1, hb, rfl, hspelling,
      (placed_of_lexFrom hn).2⟩
  induction hwrites generalizing behindText names ls with
  | @fixed previous v m parts hm =>
      rw [(WritesBraces.fixed hm).renderFrom_eq] at h
      exact hbraced (unbraced_text (spellsText_escape v) _) h
  | @capture previous c parts hneeds =>
      rw [(WritesBraces.capture hneeds).renderFrom_eq] at h
      exact hbraced (unbraced_renderBody hwf.1) h
  | @behind previous p parts before body after _ ih =>
      obtain ⟨_, _, htail⟩ := hwf.tail
      obtain ⟨front, behind, rfl, hfront, hbehind⟩ := exists_of_render ho hwf h
      obtain ⟨f, opening, b, closing, r, rfl, hopening, hclosing, hb, hf, hspelling⟩ :=
        ih htail hbehind
      exact ⟨front ++ f, opening, b, closing, r, by simp, hopening, hclosing, hb,
        by simp [hfront, hf], hspelling⟩

end UrlMatch.Pattern
