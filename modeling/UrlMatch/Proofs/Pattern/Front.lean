import UrlMatch.Proofs.Pattern.Escape
import UrlMatch.Proofs.Pattern.RoundTrip

/-!
# The front of a pattern

A text that begins with what is written for a part need not be read as this part: what follows may
go on with its name, give it a regular expression or a modifier. But then another part is read. So
if the parts that are read do begin with this part, it was read from what is written for it, and
the parts behind it from what follows, with one exception: a name may have taken a regular
expression that says what it says without one.

## Main results

* `exists_of_escape`, `exists_of_textGroup`, `exists_of_capture`: what is read behind a part.
-/

namespace UrlMatch.Pattern

/-! ### Reading from some byte on -/

/-- The text is read as the lexemes, from some byte on. -/
def IsRead (t : Text) (ls : List Lexeme) : Prop := ∃ n, lexFrom .lenient n t = .ok ls

variable {o : ReadOptions} {t v w : Text} {ls : List Lexeme} {m : Modifier}

theorem lexes_isRead (t : Text) : Lexes .lenient t (IsRead t) := fun n =>
  let ⟨ls, hls⟩ := exists_lexFrom_lenient n t
  ⟨ls, hls, n, hls⟩

theorem Lexes.of_isRead {P : List Lexeme → Prop} (h : Lexes .lenient t P) (hls : IsRead t ls) :
    P ls := by
  obtain ⟨n, hn⟩ := hls
  obtain ⟨ls', hls', hP⟩ := h n
  rw [hn] at hls'
  cases hls'
  exact hP

/-- The lexeme at the front of a text starts with the same character. -/
theorem IsRead.head {l : Lexeme} (h : IsRead t (l :: ls)) (hinvalid : l.kind ≠ .invalid)
    (hfinish : l.kind ≠ .finish) : l.Valid ∧ l.written.head? = t.head? :=
  let ⟨_, hn⟩ := h
  head_written_of_lexFrom hn hinvalid hfinish

/-- A regular expression starts with a parenthesis. -/
theorem IsRead.head_of_regexp {l : Lexeme} (h : IsRead t (l :: ls)) (hl : l.kind = .regexp) :
    t.head? = some '(' := by
  obtain ⟨-, hhead⟩ := h.head (by simp [hl]) (by simp [hl])
  simp [← hhead, Lexeme.written, hl]

/-- No modifier starts with a parenthesis. -/
theorem Modifier.eq_once_of_head (h : (m.text ++ t).head? = some '(') : m = .once := by
  cases m <;> simp_all [Modifier.text]

/-- The lexemes behind the first one are read from the text behind it. -/
theorem IsRead.tail {l : Lexeme} (h : IsRead t (l :: ls)) (hfinish : l.kind ≠ .finish) :
    ∃ t', IsRead t' ls := by
  obtain ⟨n, hn⟩ := h
  cases t with
  | nil =>
      rw [lexFrom] at hn
      cases hn
      exact absurd rfl hfinish
  | cons c t =>
      obtain ⟨l', t', ls', heq, -, -, -, -, -, hbehind⟩ := exists_read_of_lexFrom hn
      cases heq
      exact ⟨t', _, hbehind⟩

/-- A lexeme that can be a modifier is one. -/
theorem IsRead.takeModifier_of_once (h : IsRead t ls) (honce : (takeModifier ls).1 = .once) :
    (takeModifier ls).2 = ls := by
  cases ls with
  | nil => rfl
  | cons l ls =>
      rw [takeModifier] at honce ⊢
      split
      · rename_i hkind
        exfalso
        rw [if_pos hkind] at honce
        rcases hkind with hkind | hkind
        all_goals
          obtain ⟨hvalid, -⟩ := h.head (by simp [hkind]) (by simp [hkind])
          simp only [Lexeme.Valid, hkind] at hvalid
        · rcases hvalid with hvalue | hvalue <;> simp [hvalue, Modifier.ofChar?] at honce
        · simp [hvalid, Modifier.ofChar?] at honce
      · rfl

/-- A modifier is read as it is written. -/
theorem IsRead.modifier (h : IsRead (m.text ++ t) ls) (hm : m ≠ .once) :
    (takeModifier ls).1 = m ∧ IsRead t (takeModifier ls).2 :=
  ((lexes_isRead t).modifier m fun honce => absurd honce hm).of_isRead h

/-- Behind the modifier that is written, if it is the one that is read. -/
theorem IsRead.behind_modifier (h : IsRead (m.text ++ t) ls) (hm : (takeModifier ls).1 = m) :
    IsRead t (takeModifier ls).2 := by
  by_cases honce : m = .once
  · subst honce
    rw [h.takeModifier_of_once hm]
    exact h
  · exact (h.modifier honce).2

/-! ### Text and cores in front of any text -/

/-- An escaped text is read as its characters. -/
theorem Lexes.escape {policy : LexPolicy} {P : List Lexeme → Prop} (v : Text)
    (h : Lexes policy t P) :
    Lexes policy (escape v ++ t) (fun ls => ∃ behind, P behind ∧ Reading.ofLexemes ls =
      ⟨textItems v ++ (Reading.ofLexemes behind).items, (Reading.ofLexemes behind).ending⟩) := by
  induction v with
  | nil => exact h.mono fun ls hls => ⟨ls, hls, rfl⟩
  | cons c v ih =>
      by_cases hc : isSpecial c
      · rw [escape_cons_special hc]
        refine (ih.escaped c).mono ?_
        rintro ls ⟨_, ⟨behind, hP, hbehind⟩, hls⟩
        exact ⟨behind, hP, by simp [hls, hbehind, Reading.cons, textItems, hc]⟩
      · rw [escape_cons_plain (by simpa using hc)]
        refine (ih.plain (by simpa using hc)).mono ?_
        rintro ls ⟨_, ⟨behind, hP, hbehind⟩, hls⟩
        exact ⟨behind, hP, by simp [hls, hbehind, Reading.cons, textItems, hc]⟩

/-- How a core that is written in front of the text `t` is read, and the lexemes behind it. A name
may go on in the text, or take a regular expression from it. -/
inductive Core.ReadAs (t : Text) : Core → Core → List Lexeme → Prop
  | same {core : Core} {behind : List Lexeme} : IsRead t behind →
      (∀ n, core = .name n → continuesName t = false ∧ ∀ l ∈ behind.head?, l.kind ≠ .regexp) →
      ReadAs t core core behind
  | takes {n : Text} {l : Lexeme} {behind : List Lexeme} : l.kind = .regexp →
      IsRead t (l :: behind) → ReadAs t (.name n) (.nameRegexp n l.value) behind
  | goesOn {n n' : Text} {core : Core} {behind : List Lexeme} : continuesName t →
      core.name? = some n' → n' ≠ n → ReadAs t (.name n) core behind

/-- A name that goes on is another one. -/
theorem takeName_append_ne {n : Text} (hn : IsName n) (ht : continuesName t) :
    takeName (n ++ t) ≠ n ∧ takeName (n ++ t) ≠ [] := by
  obtain ⟨hne, htake⟩ := hn
  obtain ⟨c, n, rfl⟩ := List.exists_cons_of_ne_nil hne
  obtain ⟨d, t, rfl⟩ : ∃ d t', t = d :: t' := by
    cases t with
    | nil => cases ht
    | cons d t => exact ⟨d, t, rfl⟩
  have hd : isNamePart d := ht
  by_cases hc : isNameStart c
  · have hparts : n.takeWhile isNamePart = n := by simpa [takeName, hc] using htake
    have hall : ∀ ch ∈ n, isNamePart ch := List.takeWhile_eq_self_iff.1 hparts
    have hlonger : takeName (c :: n ++ d :: t) = c :: (n ++ d :: t.takeWhile isNamePart) := by
      simp [takeName, hc, List.takeWhile_append_of_pos hall, hd]
    rw [hlonger]
    simp
  · simp [takeName, hc] at htake

/-- A name in front of no regular expression is a core. -/
theorem takeCore_name {k : Nat} {n : Text} (h : ∀ l ∈ ls.head?, l.kind ≠ .regexp) :
    takeCore (⟨.name, k, n⟩ :: ls) = (some (.name n), ls) := by
  cases ls with
  | nil => rfl
  | cons l ls =>
      obtain ⟨kind, start, value⟩ := l
      cases kind <;> first | rfl | exact absurd rfl (h _ rfl)

/-- A lexeme in front of others is a regular expression, or none of them is taken as one. -/
theorem regexp_or_forall_head? (ls : List Lexeme) :
    (∃ k r behind, ls = ⟨.regexp, k, r⟩ :: behind) ∨ ∀ l ∈ ls.head?, l.kind ≠ .regexp := by
  cases ls with
  | nil => exact .inr fun l hl => by cases hl
  | cons l ls =>
      obtain ⟨kind, k, r⟩ := l
      by_cases hkind : kind = .regexp
      · subst hkind
        exact .inl ⟨k, r, ls, rfl⟩
      · exact .inr fun l hl => by
          cases hl
          exact hkind

/-- **A core in front of any text** is read as a core. -/
theorem exists_readAs {core : Core} (hw : core.Spells w) (h : IsRead (w ++ t) ls) :
    ∃ core' behind, core.ReadAs t core' behind ∧ Reading.ofLexemes ls =
      .cons (.bare core' (takeModifier behind).1) (Reading.ofLexemes (takeModifier behind).2) := by
  have hends (hend : core.EndsBefore t) (hname : ∀ n, core ≠ .name n) :
      ∃ core' behind, core.ReadAs t core' behind ∧ Reading.ofLexemes ls =
        .cons (.bare core' (takeModifier behind).1)
          (Reading.ofLexemes (takeModifier behind).2) := by
    obtain ⟨behind, hbehind, hls⟩ := ((lexes_isRead t).bare hw hend).of_isRead h
    exact ⟨core, behind, .same hbehind fun n hn => absurd hn (hname n), hls⟩
  cases hw with
  | regexp hr => exact hends trivial (by simp)
  | nameRegexp hn hr => exact hends trivial (by simp)
  | asterisk => exact hends trivial (by simp)
  | @name n hn =>
      by_cases ht : continuesName t
      · obtain ⟨hlonger, hne⟩ := takeName_append_ne hn ht
        obtain ⟨k, hk⟩ := h
        have hread : readLexeme k ':' (n ++ t) = .ok ⟨.name, k, takeName (n ++ t)⟩ := by
          simp [readLexeme, hne]
        rw [List.cons_append, lexFrom_cons hread] at hk
        obtain ⟨rest, -, ⟨⟩⟩ := bind_eq_ok.1 hk
        rcases regexp_or_forall_head? rest with ⟨k', r, behind, rfl⟩ | hhead
        · exact ⟨.nameRegexp _ r, behind, .goesOn ht rfl hlonger, ofLexemes_bare (.inl rfl) rfl⟩
        · exact ⟨.name _, rest, .goesOn ht rfl hlonger,
            ofLexemes_bare (.inl rfl) (takeCore_name hhead)⟩
      · have ht : continuesName t = false := by simpa using ht
        obtain ⟨k, rest, rfl, hrest⟩ := ((lexes_isRead t).written (k := .name) (v := n) hn
          (by simp) fun _ => ht).of_isRead h
        rcases regexp_or_forall_head? rest with ⟨k', r, behind, rfl⟩ | hhead
        · exact ⟨.nameRegexp n r, behind, .takes rfl hrest, ofLexemes_bare (.inl rfl) rfl⟩
        · refine ⟨.name n, rest, .same hrest ?_, ofLexemes_bare (.inl rfl) (takeCore_name hhead)⟩
          exact fun _ _ => ⟨ht, hhead⟩

/-! ### Parts in front of others -/

theorem literalParts_append_capture_inj {x y : Text} {c d : Capture} {ps qs : List Part}
    (h : literalParts x ++ .capture c :: ps = literalParts y ++ .capture d :: qs) :
    x = y ∧ c = d ∧ ps = qs := by
  rw [literalParts, literalParts] at h
  split_ifs at h <;> simp_all

theorem literalParts_append_capture_ne {x y : Text} {c : Capture} {ps qs : List Part}
    (hm : m ≠ .once) : literalParts x ++ .capture c :: ps ≠ literalParts y ++ .fixed v m :: qs := by
  intro h
  rw [literalParts, literalParts] at h
  split_ifs at h <;> simp_all

/-- A text that is read is not shorter than what is written for it. -/
theorem eq_of_literalParts_append_capture {x : Text} {c : Capture} {ps qs : List Part}
    (h : literalParts x ++ .capture c :: ps = .fixed v .once :: qs) : x = v := by
  rw [literalParts] at h
  split_ifs at h <;> simp_all

variable {pending lead trail : Text} {names names' : Naming} {core : Core} {ending : Ending}
  {items : List Item} {parts : List Part}

/-- A capture behind what has gathered, and the parts behind it. -/
theorem exists_of_thenCapture {behind : Naming → Except Error (List Part)} (ho : o.Neutral)
    (h : thenCapture o pending names lead core trail m behind = .ok parts) :
    ∃ c names' more, parts = literalParts pending ++ .capture c :: more ∧
      names.assign core.name? = .ok (c.name, names') ∧ c.lead = lead ∧ c.trail = trail ∧
      c.kind = core.regexp?.elim .segment (CaptureKind.classify · (segmentRegexp o.delimiters)) ∧
      c.modifier = m ∧ behind names' = .ok more := by
  obtain ⟨before, hbefore, h⟩ := bind_eq_ok.1 h
  obtain ⟨⟨p, next⟩, hp, h⟩ := bind_eq_ok.1 h
  obtain ⟨more, hmore, ⟨⟩⟩ := bind_eq_ok.1 h
  obtain ⟨⟨name, next'⟩, hname, hp⟩ := bind_eq_ok.1 hp
  simp only [canonical_eq_self ho.encode, ok_bind] at hp
  cases hp
  rw [gathered_eq_self ho.encode] at hbefore
  cases hbefore
  refine ⟨_, _, more, rfl, hname, rfl, rfl, ?_, rfl, hmore⟩
  cases core.regexp? <;> rfl

/-- **A bare core behind a text is a capture** without a trail. If the text ends in a character
that captures take along, the capture takes it. -/
theorem exists_of_bare (ho : o.Neutral)
    (h : partsOf o ending pending names (textItems v ++ .bare core m :: items) = .ok parts) :
    ∃ x c names' more, parts = literalParts x ++ .capture c :: more ∧
      names.assign core.name? = .ok (c.name, names') ∧
      (c.lead = [] ∧ v.getLast?.any (· ∈ o.leads) = false ∨ ∃ ch ∈ o.leads, c.lead = [ch]) ∧
      pending ++ v = x ++ c.lead ∧ c.trail = [] ∧
      c.kind = core.regexp?.elim .segment (CaptureKind.classify · (segmentRegexp o.delimiters)) ∧
      c.modifier = m ∧ partsOf o ending [] names' items = .ok more := by
  by_cases hlast : v.getLast?.any (· ∈ o.leads)
  · obtain ⟨ch, hch, hlead⟩ := (Option.any_eq_true _ _).1 hlast
    obtain ⟨v, rfl⟩ := List.getLast?_eq_some_iff.1 hch
    have hlead : ch ∈ o.leads := by simpa using hlead
    have hitems : textItems (v ++ [ch]) ++ .bare core m :: items =
        textItems v ++ .plain [ch] :: .bare core m :: items := by
      simp [textItems, (ho.leads ch hlead).1]
    rw [hitems, partsOf_textItems (by simp), partsOf,
      if_pos (by simpa [ReadOptions.isLead] using hlead)] at h
    obtain ⟨c, names', more, rfl, hname, hc, htrail, hkind, hmodifier, hmore⟩ :=
      exists_of_thenCapture ho h
    exact ⟨_, c, names', more, rfl, hname, .inr ⟨ch, hlead, hc⟩,
      by rw [hc, List.append_assoc], htrail, hkind, hmodifier, hmore⟩
  · have hlast : v.getLast?.any (· ∈ o.leads) = false := by simpa using hlast
    rw [partsOf_textItems fun _ _ _ _ => hlast, partsOf] at h
    obtain ⟨c, names', more, rfl, hname, hc, htrail, hkind, hmodifier, hmore⟩ :=
      exists_of_thenCapture ho h
    exact ⟨_, c, names', more, rfl, hname, .inl ⟨hc, hlast⟩, by rw [hc, List.append_nil], htrail,
      hkind, hmodifier, hmore⟩

/-- The lexemes stand for the parts, where `pending` has gathered before them and nothing of it is
taken along. -/
structure StandFor (o : ReadOptions) (pending : Text) (names : Naming) (ls : List Lexeme)
    (parts : List Part) : Prop where
  lead : ∀ core m rest, (Reading.ofLexemes ls).items = .bare core m :: rest →
    pending.getLast?.any (· ∈ o.leads) = false
  parts : partsOf o (Reading.ofLexemes ls).ending pending names (Reading.ofLexemes ls).items =
    .ok parts

/-- Behind nothing that has gathered. -/
theorem standFor_nil (h : partsOf o (Reading.ofLexemes ls).ending [] names
    (Reading.ofLexemes ls).items = .ok parts) : StandFor o [] names ls parts :=
  ⟨fun _ _ _ _ => rfl, h⟩

/-- **A text that is read as a fixed text** was read from what is written for it. -/
theorem exists_of_escape (ho : o.Neutral) (h : IsRead (escape v ++ t) ls)
    (hparts : StandFor o [] names ls (.fixed v .once :: parts)) :
    ∃ behind, IsRead t behind ∧ StandFor o v names behind (.fixed v .once :: parts) := by
  obtain ⟨behind, hbehind, hls⟩ := ((lexes_isRead t).escape v).of_isRead h
  have hparts := hparts.parts
  rw [hls] at hparts
  have hlead : ∀ core m rest, (Reading.ofLexemes behind).items = .bare core m :: rest →
      v.getLast?.any (· ∈ o.leads) = false := by
    intro core m rest hitems
    rw [hitems] at hparts
    obtain ⟨x, c, names', more, heq, -, hlead, hx, -⟩ := exists_of_bare ho hparts
    rcases hlead with ⟨-, hlast⟩ | ⟨ch, -, hlead⟩
    · exact hlast
    · have hv := eq_of_literalParts_append_capture heq.symm
      simp [hv, hlead] at hx
  rw [partsOf_textItems hlead] at hparts
  exact ⟨behind, hbehind, hlead, hparts⟩

/-- **Text in braces with a modifier** was read from what is written for it. -/
theorem exists_of_textGroup (ho : o.Neutral) (hm : m ≠ .once) (hv : v ≠ [])
    (h : IsRead ('\x7b' :: (escape v ++ '\x7d' :: (m.text ++ t))) ls)
    (hparts : StandFor o pending names ls (literalParts pending ++ .fixed v m :: parts)) :
    ∃ behind, IsRead t behind ∧ StandFor o [] names behind parts := by
  obtain ⟨behind, ⟨rfl, hbehind⟩, hls⟩ :=
    (((lexes_isRead t).modifier m fun heq => absurd heq hm).textGroup
      (spellsText_escape v)).of_isRead h
  have hparts := hparts.parts
  rw [hls, Reading.cons, partsOf, if_neg hm, if_neg hv] at hparts
  obtain ⟨before, hbefore, hparts⟩ := bind_eq_ok.1 hparts
  simp only [canonical_eq_self ho.encode, ok_bind] at hparts
  obtain ⟨more, hmore, heq⟩ := bind_eq_ok.1 hparts
  rw [gathered_eq_self ho.encode] at hbefore
  cases hbefore
  cases List.append_cancel_left (Except.ok.inj heq)
  exact ⟨_, hbehind, standFor_nil hmore⟩

/-- A capture that is read from its own text, and what follows from the text behind it; but its name
may have taken a regular expression from there. -/
inductive Capture.LeavesOff (o : ReadOptions) (c : Capture) (t : Text) (braced : Bool) :
    List Lexeme → Prop
  | behind {ls : List Lexeme} : IsRead t ls → LeavesOff o c t braced ls
  | taken {l : Lexeme} {ls : List Lexeme} {n : Text} : braced = false → c.core o = .name n →
      c.modifier = .once → l.kind = .regexp → IsRead t (l :: ls) → LeavesOff o c t braced ls

/-- **A capture** was read from what is written for it, unless its name took a regular expression
from what follows. -/
theorem exists_of_capture (ho : o.Neutral) {c : Capture} {previous next : Option Part}
    (hc : c.Valid o) (hname : names.assign c.name.given? = .ok (c.name, names'))
    (h : IsRead (c.render o previous next ++ t) ls)
    (hparts : StandFor o pending names ls (literalParts pending ++ .capture c :: parts)) :
    ∃ behind, c.LeavesOff o t (c.needsBraces o previous next) behind ∧
      StandFor o [] names' behind parts := by
  have hnames {core : Core} {next : Naming} (hnext : names.assign core.name? = .ok (c.name, next)) :
      next = names' := by
    rw [← given?_of_assign hnext, hname] at hnext
    cases hnext
    rfl
  have hparts := hparts.parts
  by_cases hb : c.needsBraces o previous next
  · have hgroup := (lexes_isRead (c.modifier.text ++ t)).group (spellsText_escape c.lead)
      (spells_core hc true previous) (spellsText_trail c)
      (endsBefore_trail o c (c.modifier.text ++ t))
    rw [Capture.render_of_needsBraces hb, Capture.renderBody_eq] at h
    obtain ⟨behind, hbehind, hls⟩ := hgroup.of_isRead (by simpa using h)
    rw [hls, Reading.cons, partsOf] at hparts
    obtain ⟨c', next', more, heq, hnext, -, -, -, hmodifier, hmore⟩ :=
      exists_of_thenCapture ho hparts
    obtain ⟨-, rfl, rfl⟩ := literalParts_append_capture_inj heq
    obtain rfl := hnames hnext
    exact ⟨_, .behind (hbehind.behind_modifier hmodifier.symm), standFor_nil hmore⟩
  · have hb : c.needsBraces o previous next = false := by simpa using hb
    rw [Capture.render_of_not_needsBraces hb, List.append_assoc, List.append_assoc] at h
    obtain ⟨ls', hls', hls⟩ := ((lexes_isRead _).escape c.lead).of_isRead h
    obtain ⟨core', behind, hread, hcore⟩ := exists_readAs (spells_core hc false previous) hls'
    rw [hls, hcore] at hparts
    obtain ⟨x, c', next', more, heq, hnext, -, -, -, -, hmodifier, hmore⟩ :=
      exists_of_bare ho hparts
    obtain ⟨-, rfl, rfl⟩ := literalParts_append_capture_inj heq
    obtain rfl := hnames hnext
    generalize hwritten : c.core o = written at hread
    cases hread with
    | same hbehind _ =>
        exact ⟨_, .behind (hbehind.behind_modifier hmodifier.symm), standFor_nil hmore⟩
    | @takes n l behind hl hbehind =>
        have honce : c.modifier = .once := Modifier.eq_once_of_head (hbehind.head_of_regexp hl)
        obtain ⟨t', hread⟩ := hbehind.tail (by simp [hl])
        rw [hread.takeModifier_of_once (hmodifier.symm.trans honce)] at hmore
        rw [honce] at hbehind
        exact ⟨_, .taken hb hwritten honce hl hbehind, standFor_nil hmore⟩
    | @goesOn n n' core' behind ht hn' hne =>
        exfalso
        have hgiven := given?_of_assign hnext
        rw [hn', ← name?_core o c, hwritten, Core.name?, Option.some.injEq] at hgiven
        exact hne hgiven.symm

end UrlMatch.Pattern
