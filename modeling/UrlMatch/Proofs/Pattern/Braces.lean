import UrlMatch.Proofs.Pattern.BracePairs
import UrlMatch.Proofs.Pattern.Policies

/-!
# Braces that are needed

None of the pairs of braces that `render` writes can be left out: without them the text either is no
pattern or stands for other parts. Parts in front of the pair that read as they were written leave
the text at the pair to be read next (`exists_of_escape`, `exists_of_textGroup`,
`exists_of_capture`), so it is enough to look at a pair with nothing but gathered text before it.

## Main results

* `not_standFor_fixed`, `not_standFor_capture`: a pair at the front is needed.
* `not_standFor_of_writesBraces`: a pair anywhere is needed.
* `parse_ne_of_braces`: the text of a pattern has no pair of braces too many.
-/

namespace UrlMatch.Pattern

variable {o : ReadOptions} {previous : Option Part} {parts : List Part}
  {before body after pending t v : Text} {names names' : Naming} {items : List Item}
  {ending : Ending} {ls : List Lexeme} {m : Modifier} {c : Capture}

/-! ### The number of captures -/

/-- An item that stands for a capture. -/
def Item.isCapture : Item → Bool
  | bare _ _ | group _ _ _ _ => true
  | plain _ | escaped _ | textGroup _ _ => false

/-- A part that is a capture. -/
def Part.isCapture (p : Part) : Bool := p.capture?.isSome

theorem countP_textItems (v : Text) : (textItems v).countP Item.isCapture = 0 := by
  induction v with
  | nil => rfl
  | cons c v ih =>
      by_cases hc : isSpecial c <;> simp_all [textItems, Item.isCapture]

theorem countP_literalParts (v : Text) : (literalParts v).countP Part.isCapture = 0 := by
  rw [literalParts]
  split <;> rfl

/-- What is written has an item for each capture. -/
theorem countP_itemsOf (o : ReadOptions) (previous : Option Part) (parts : List Part) :
    (itemsOf o previous parts).countP Item.isCapture = parts.countP Part.isCapture := by
  induction parts generalizing previous with
  | nil => rfl
  | cons p parts ih =>
      rw [itemsOf, List.countP_append, ih, List.countP_cons, Nat.add_comm]
      congr 1
      cases p with
      | fixed v m => cases m <;> simp [Part.items, countP_textItems, Part.isCapture, Part.capture?,
          Item.isCapture]
      | capture c =>
          rw [Part.items]
          split <;> simp [countP_textItems, Part.isCapture, Part.capture?, Item.isCapture]

/-- What is read has a capture for each of its items. -/
theorem countP_of_partsOf (ho : o.Neutral)
    (h : partsOf o ending pending names items = .ok parts) :
    parts.countP Part.isCapture = items.countP Item.isCapture := by
  have hcapture {pending lead trail : Text} {names : Naming} {core : Core} {m : Modifier}
      {behind : Naming → Except Error (List Part)} {parts : List Part} {n : Nat}
      (hbehind : ∀ names more, behind names = .ok more → more.countP Part.isCapture = n)
      (h : thenCapture o pending names lead core trail m behind = .ok parts) :
      parts.countP Part.isCapture = n + 1 := by
    obtain ⟨c, names', more, rfl, -, -, -, -, -, hmore⟩ := exists_of_thenCapture ho h
    rw [List.countP_append, countP_literalParts, List.countP_cons_of_pos rfl, hbehind _ _ hmore,
      Nat.zero_add]
  fun_induction partsOf o ending pending names items generalizing parts with
  | case1 pending names =>
      rw [gathered_eq_self ho.encode] at h
      cases h
      exact countP_literalParts pending
  | case2 =>
      obtain ⟨_, -, h⟩ := bind_eq_ok.1 h
      cases h
  | case3 => cases h
  | case4 pending names value core m items hlead ih
  | case5 pending names value core m items hlead ih =>
      rw [List.countP_cons_of_neg (by simp [Item.isCapture]), List.countP_cons_of_pos rfl]
      exact hcapture (fun names more => ih names) h
  | case8 pending names core m items ih | case12 pending names lead core trail m items ih =>
      rw [List.countP_cons_of_pos rfl]
      exact hcapture (fun names more => ih names) h
  | case6 pending names value items hbare ih | case7 pending names value items ih
  | case9 pending names value items ih | case10 pending names m items hm ih =>
      rw [List.countP_cons_of_neg (by simp [Item.isCapture])]
      exact ih h
  | case11 pending names value m items hm hv ih =>
      obtain ⟨before, hbefore, h⟩ := bind_eq_ok.1 h
      obtain ⟨value', -, h⟩ := bind_eq_ok.1 h
      obtain ⟨more, hmore, ⟨⟩⟩ := bind_eq_ok.1 h
      rw [gathered_eq_self ho.encode] at hbefore
      cases hbefore
      rw [List.countP_append, List.countP_cons_of_neg (by simp [Part.isCapture, Part.capture?]),
        List.countP_cons_of_neg (by simp [Item.isCapture]), ih hmore]
      exact (congrArg (· + _) (countP_literalParts pending)).trans (Nat.zero_add _)

/-! ### Text with a modifier -/

/-- A modifier of nothing ends what is read. -/
theorem ofLexemes_modifier {l : Lexeme} (hl : l.kind = .modifier) (ls : List Lexeme) :
    Reading.ofLexemes (l :: ls) = ⟨[], .stray l.start .modifier⟩ := by
  obtain ⟨kind, start, value⟩ := l
  obtain rfl : kind = .modifier := hl
  rw [Reading.ofLexemes]
  rfl

/-- A modifier is read from a lexeme that can be one. -/
theorem exists_of_takeModifier (h : (takeModifier ls).1 ≠ .once) :
    ∃ l behind, ls = l :: behind ∧ (l.kind = .modifier ∨ l.kind = .asterisk) := by
  revert h
  fun_cases takeModifier ls with
  | case1 => exact fun h => absurd rfl h
  | case2 l behind hl => exact fun _ => ⟨l, behind, rfl, hl⟩
  | case3 => exact fun h => absurd rfl h

/-- **Text with a modifier needs its braces.** Without them the modifier is one of nothing, or it
is an asterisk that starts a capture. -/
theorem not_standFor_fixed (ho : o.Neutral) (hm : m ≠ .once)
    (h : IsRead (escape v ++ (m.text ++ t)) ls) :
    ¬ StandFor o pending names ls (literalParts pending ++ .fixed v m :: parts) := by
  intro hparts
  obtain ⟨behind, hbehind, hls⟩ := ((lexes_isRead _).escape v).of_isRead h
  obtain ⟨l, rest, rfl, hl⟩ := exists_of_takeModifier ((hbehind.modifier hm).1 ▸ hm)
  have hparts := hparts.parts
  rcases hl with hl | hl
  · rw [hls, ofLexemes_modifier hl, partsOf_textItems (by simp), partsOf] at hparts
    obtain ⟨_, -, hparts⟩ := bind_eq_ok.1 hparts
    cases hparts
  · obtain ⟨kind, start, value⟩ := l
    obtain rfl : kind = .asterisk := hl
    rw [hls, ofLexemes_bare (.inr (.inr rfl)) rfl] at hparts
    obtain ⟨x, c, names', more, heq, -⟩ := exists_of_bare ho hparts
    exact literalParts_append_capture_ne hm heq.symm

/-! ### Captures -/

/-- A core that starts with a parenthesis is a regular expression in front of any text. -/
theorem exists_regexp_of_core {core : Core} {w : Text} (hw : core.Spells w)
    (hhead : (w ++ t).head? = some '(') (h : IsRead (w ++ t) ls) :
    ∃ l behind, ls = l :: behind ∧ l.kind = .regexp ∧ IsRead t behind := by
  cases hw with
  | name | nameRegexp | asterisk => simp at hhead
  | @regexp r hr =>
      obtain ⟨k, behind, rfl, hbehind⟩ := ((lexes_isRead t).written (k := .regexp) (v := r) hr
        (by simp) (by simp)).of_isRead h
      exact ⟨_, behind, rfl, rfl, hbehind⟩

/-- Behind a capture that occurs once, one that could belong to it is written with a
parenthesis. -/
theorem exists_regexp_of_render {d : Capture} {next : Option Part} (hd : d.Valid o)
    (hc : c.modifier = .once) (habsorbs : Capture.absorbs (some (.capture d)))
    (h : IsRead (d.render o (some (.capture c)) next ++ t) ls) :
    ∃ l behind, ls = l :: behind ∧ l.kind = .regexp ∧ IsRead (d.modifier.text ++ t) behind := by
  obtain ⟨⟨hname, hlead⟩, htrail⟩ : (d.isNamed = false ∧ d.lead = []) ∧ d.trail = [] := by
    simpa [Capture.absorbs] using habsorbs
  have hb : d.needsBraces o (some (.capture c)) next = false := by
    simp [Capture.needsBraces, Capture.isOpenEnded, Capture.takesFrom, hname, hlead, htrail]
  rw [Capture.render_of_not_needsBraces hb, hlead, escape, List.flatMap_nil, List.nil_append,
    List.append_assoc] at h
  refine exists_regexp_of_core (spells_core hd false _) ?_ h
  have hnameText : d.nameText = [] := by
    cases hn : d.name <;> simp_all [Capture.nameText, Capture.isNamed]
  rw [hnameText, Capture.renderKind]
  cases d.kind <;> simp [hname, hlead, hc, Capture.asteriskIsBare]

/-- Escaping keeps a character that could continue a name. -/
theorem continuesName_escape (hv : continuesName v) (t : Text) :
    continuesName (escape v ++ t) := by
  cases v with
  | nil => cases hv
  | cons ch v =>
      rw [escape_cons_plain (isSpecial_eq_false_of_isNamePart hv)]
      exact hv

/-- **A name that is read from its own text absorbs nothing** of the text behind it. What could
continue it would, and a regular expression behind it would be its own: then one capture less is
read than is written. -/
theorem not_absorbs_of_readAs (ho : o.Neutral) {n : Text} {core : Core} {behind : List Lexeme}
    (hwf : WellFormed o false names' parts) (hname : core.name? = some n)
    (hc : c.modifier = .once)
    (hread : (Core.name n).ReadAs (renderFrom o (some (.capture c)) parts) core behind)
    (hmodifier : (takeModifier behind).1 = .once)
    (hparts : partsOf o (Reading.ofLexemes (takeModifier behind).2).ending [] names
      (Reading.ofLexemes (takeModifier behind).2).items = .ok parts) :
    Capture.absorbs parts.head? = false := by
  by_contra habsorbs
  have habsorbs : Capture.absorbs parts.head? = true := by simpa using habsorbs
  cases parts with
  | nil => cases habsorbs
  | cons p parts =>
      cases p with
      | fixed v m =>
          obtain ⟨rfl, hv⟩ : m = .once ∧ continuesName v := by
            cases m <;> simp_all [Capture.absorbs]
          have ht : continuesName (renderFrom o (some (.capture c)) (.fixed v .once :: parts)) :=
            continuesName_escape hv _
          cases hread with
          | same hbehind hends => simp [(hends n rfl).1] at ht
          | takes hl hbehind =>
              rw [continuesName, hbehind.head_of_regexp hl] at ht
              exact absurd ht (by decide)
          | goesOn _ hname' hne => exact hne (Option.some.inj (hname'.symm.trans hname))
      | capture d =>
          obtain ⟨hd, next, -, hpartsWf⟩ := hwf
          cases hread with
          | same hbehind hends =>
              obtain ⟨l, rest, rfl, hl, -⟩ := exists_regexp_of_render hd hc habsorbs hbehind
              exact (hends n rfl).2 l rfl hl
          | takes hl hbehind =>
              obtain ⟨l', rest, heq, -, hrest⟩ := exists_regexp_of_render hd hc habsorbs hbehind
              obtain ⟨rfl, rfl⟩ := List.cons.inj heq
              have honce : d.modifier = .once := by
                by_contra hm
                exact hm ((hrest.modifier hm).1.symm.trans hmodifier)
              rw [honce] at hrest
              have hspells := spells_renderFrom ho hpartsWf (some (.capture d))
              have hitems := hspells.lexes.of_isRead hrest
              rw [hrest.takeModifier_of_once hmodifier, hitems] at hparts
              have hcount := countP_of_partsOf ho hparts
              rw [countP_itemsOf, List.countP_cons_of_pos rfl] at hcount
              omega
          | goesOn _ hname' hne => exact hne (Option.some.inj (hname'.symm.trans hname))

/-- **A capture needs the braces** that it is written with. -/
theorem not_standFor_capture (ho : o.Neutral) (hc : c.Valid o)
    (hb : c.needsBraces o previous parts.head?) (hwf : WellFormed o false names' parts)
    (h : IsRead (c.renderBody o true previous ++
      (c.modifier.text ++ renderFrom o (some (.capture c)) parts)) ls) :
    ¬ StandFor o (Part.gathers previous) names ls
      (literalParts (Part.gathers previous) ++ .capture c :: parts) := by
  intro hparts
  rw [Capture.renderBody_eq, List.append_assoc, List.append_assoc] at h
  obtain ⟨ls', hls', hls⟩ := ((lexes_isRead _).escape c.lead).of_isRead h
  obtain ⟨core', behind, hread, hcore⟩ := exists_readAs (spells_core hc true previous) hls'
  have hitems := hparts.parts
  rw [hls, hcore] at hitems
  obtain ⟨x, c', next', more, heq, hnext, hlead, -, htrail, -, hmodifier, hmore⟩ :=
    exists_of_bare ho hitems
  obtain ⟨-, rfl, rfl⟩ := literalParts_append_capture_inj heq
  have hlead : c.lead = [] ∨ o.isLead c.lead := by
    rcases hlead with ⟨hnil, -⟩ | ⟨ch, hch, hch'⟩
    · exact .inl hnil
    · exact .inr (by simpa [hch', ReadOptions.isLead] using hch)
  simp only [Capture.needsBraces, Bool.or_eq_true, Bool.and_eq_true, bne_iff_ne, beq_iff_eq,
    htrail, ne_eq, not_true_eq_false, false_or, Bool.not_eq_true'] at hb
  rcases hb with (⟨hne, hnot⟩ | ⟨hopen, habsorbs⟩) | ⟨hnil, htakes⟩
  · rcases hlead with hnil | hlead
    · exact hne hnil
    · rw [hlead] at hnot
      cases hnot
  · obtain ⟨⟨hnamed, hkind⟩, honce⟩ :
        (c.isNamed = true ∧ c.kind = .segment) ∧ c.modifier = .once := by
      simpa [Capture.isOpenEnded] using hopen
    obtain ⟨n, hn⟩ : ∃ n, c.name = .named n := by
      cases hn : c.name <;> simp_all [Capture.isNamed]
    have hcoreName : c.core o = .name n := by rw [Capture.core, hn, hkind]
    have hgiven : core'.name? = some n := by
      rw [← given?_of_assign hnext, hn]
      rfl
    have hread : (Core.name n).ReadAs (renderFrom o (some (.capture c)) parts) core' behind := by
      simpa [hcoreName, Capture.guard, htrail, honce, continuesName, escape, Modifier.text]
        using hread
    rw [not_absorbs_of_readAs ho hwf hgiven honce hread (hmodifier.symm.trans honce) hmore]
      at habsorbs
    cases habsorbs
  · have hfirst : (Part.gathers previous).getLast?.any (· ∈ o.leads) = false := by
      refine hparts.lead core' (takeModifier behind).1
        (Reading.ofLexemes (takeModifier behind).2).items ?_
      rw [hls, hcore, hnil]
      rfl
    rw [takesFrom_eq, hfirst] at htakes
    cases htakes

/-! ### Names in front of a pair -/

/-- Where text has gathered, a fixed text is read first. -/
theorem exists_fixed_of_partsOf (ho : o.Neutral) (hpending : pending ≠ [])
    (h : partsOf o ending pending names items = .ok parts) :
    ∃ v more, parts = .fixed v .once :: more := by
  have hcapture {pending lead trail : Text} {names : Naming} {core : Core} {m : Modifier}
      {behind : Naming → Except Error (List Part)} {parts : List Part} (hpending : pending ≠ [])
      (h : thenCapture o pending names lead core trail m behind = .ok parts) :
      ∃ v more, parts = .fixed v .once :: more := by
    obtain ⟨c, names', more, rfl, -⟩ := exists_of_thenCapture ho h
    exact ⟨pending, _, by rw [literalParts_of_ne_nil hpending]; rfl⟩
  fun_induction partsOf o ending pending names items generalizing parts with
  | case1 pending names =>
      rw [gathered_eq_self ho.encode, literalParts_of_ne_nil hpending] at h
      cases h
      exact ⟨pending, [], rfl⟩
  | case2 =>
      obtain ⟨_, -, h⟩ := bind_eq_ok.1 h
      cases h
  | case3 => cases h
  | case4 | case8 | case12 => exact hcapture hpending h
  | case5 => exact hcapture (by simp [hpending]) h
  | case6 _ _ _ _ _ ih | case7 _ _ _ _ ih | case9 _ _ _ _ ih => exact ih (by simp [hpending]) h
  | case10 _ _ _ _ _ ih => exact ih hpending h
  | case11 pending =>
      obtain ⟨before, hbefore, h⟩ := bind_eq_ok.1 h
      obtain ⟨_, -, h⟩ := bind_eq_ok.1 h
      obtain ⟨more, -, ⟨⟩⟩ := bind_eq_ok.1 h
      rw [gathered_eq_self ho.encode, literalParts_of_ne_nil hpending] at hbefore
      cases hbefore
      exact ⟨pending, _, rfl⟩

/-- A capture behind text takes along its last character, or else text is read first. -/
theorem lead_ne_nil_of_escape (ho : o.Neutral) (hv : v ≠ []) (h : IsRead (escape v ++ t) ls)
    (hparts : StandFor o [] names ls (.capture c :: parts)) : c.lead ≠ [] := by
  obtain ⟨behind, -, hls⟩ := ((lexes_isRead t).escape v).of_isRead h
  have hparts := hparts.parts
  rw [hls] at hparts
  by_cases hbare : ∃ core m rest, (Reading.ofLexemes behind).items = .bare core m :: rest
  · obtain ⟨core, m, rest, hitems⟩ := hbare
    rw [hitems] at hparts
    obtain ⟨x, c', names', more, heq, -, -, hx, -⟩ := exists_of_bare ho hparts
    obtain ⟨rfl, rfl, -⟩ : ([] : Text) = x ∧ c = c' ∧ parts = more :=
      literalParts_append_capture_inj heq
    simpa [← show v = c.lead from hx] using hv
  · rw [partsOf_textItems fun core m rest hitems => absurd ⟨core, m, rest, hitems⟩ hbare] at hparts
    obtain ⟨w, more, heq⟩ := exists_fixed_of_partsOf ho hv hparts
    cases heq

/-- No text is escaped to one that starts with a parenthesis. -/
theorem head?_escape_ne (hv : v ≠ []) (t : Text) : (escape v ++ t).head? ≠ some '(' := by
  intro hhead
  have hother := head_escape (q := (· == '(')) hv (by decide)
    (fun _ _ hs => beq_false_of_ne (ne_paren_of_not_special hs)) t
  simp [hhead] at hother

/-- **A name takes no regular expression from a pair of braces** that are left out. What stands
between the braces starts with one only if it is an unnamed capture that is in braces for its trail;
then the trail is left over. -/
theorem not_standFor_of_regexp (ho : o.Neutral) {n : Text} {l : Lexeme} (hl : l.kind = .regexp)
    (hb : c.needsBraces o previous parts.head? = false) (hcore : c.core o = .name n)
    (honce : c.modifier = .once) (hwf : WellFormed o false names' parts)
    (hwrites : WritesBraces o (some (.capture c)) parts before body after)
    (h : IsRead (before ++ (body ++ after)) (l :: ls)) : ¬ StandFor o [] names ls parts := by
  intro hparts
  have hhead := h.head_of_regexp hl
  cases hwrites with
  | fixed hm => exact head?_escape_ne (hwf.fixed_ne_nil ho.encode) _ hhead
  | @capture _ d parts hneeds =>
      obtain ⟨hd, -⟩ := hwf
      rw [List.nil_append, Capture.renderBody_eq, List.append_assoc] at h hhead
      have hlead : d.lead = [] := by
        by_contra hne
        exact head?_escape_ne hne _ hhead
      have hname : d.isNamed = false := by
        cases hn : d.name <;> simp_all [Capture.nameText, Capture.isNamed, escape]
      have htrail : d.trail ≠ [] := by
        simpa [Capture.needsBraces, Capture.isOpenEnded, Capture.takesFrom, hname, hlead]
          using hneeds
      rw [hlead, escape, List.flatMap_nil, List.nil_append, List.append_assoc] at h hhead
      obtain ⟨_, behind, heq, -, hbehind⟩ :=
        exists_regexp_of_core (spells_core hd true _) hhead h
      obtain ⟨rfl, rfl⟩ := List.cons.inj heq
      rw [Capture.guard, hname, Bool.false_and, Bool.false_and, if_neg (by simp), List.nil_append]
        at hbehind
      exact lead_ne_nil_of_escape ho htrail hbehind hparts hlead
  | @behind _ p parts before body after _ =>
      obtain ⟨hname, hkind⟩ : c.isNamed ∧ c.kind = .segment := by
        rw [Capture.core] at hcore
        split at hcore <;> simp_all [Capture.isNamed]
      have hne : ∀ v, p = .fixed v .once → v ≠ [] := by
        rintro v rfl
        exact hwf.fixed_ne_nil ho.encode
      have hother : (p.render o (some (.capture c)) parts.head? ++
          (before ++ (body ++ after))).head?.any goesOn = false :=
        head_render_of_not_absorbs ho hne (not_absorbs_of_core hb hname hkind honce) _
      rw [List.append_assoc] at hhead
      rw [hhead] at hother
      cases hother

/-! ### Whole patterns -/

/-- **Every pair of braces is needed.** Where the text without the pair is read behind what has
gathered, it does not stand for the parts. -/
theorem not_standFor_of_writesBraces (ho : o.Neutral)
    (hwrites : WritesBraces o previous parts before body after)
    (hwf : WellFormed o (Part.gathers previous != []) names parts)
    (h : IsRead (before ++ (body ++ after)) ls) :
    ¬ StandFor o (Part.gathers previous) names ls
      (literalParts (Part.gathers previous) ++ parts) := by
  induction hwrites generalizing names ls with
  | fixed hm => exact not_standFor_fixed ho hm h
  | capture hneeds =>
      obtain ⟨hc, names', -, hparts⟩ := hwf
      exact not_standFor_capture ho hc hneeds hparts h
  | @behind previous p parts before body after hwrites ih =>
      intro hparts
      rw [List.append_assoc] at h
      cases p with
      | fixed v m =>
          have hv := hwf.fixed_ne_nil ho.encode
          have hrest := hwf.behind_fixed ho.encode
          by_cases hm : m = .once
          · subst hm
            have hg : Part.gathers previous = [] := by simpa using hwf.1 rfl
            rw [hg] at hparts
            obtain ⟨behind, hbehind, hstand⟩ := exists_of_escape ho h hparts
            refine ih hrest hbehind ?_
            rwa [Part.gathers, literalParts_of_ne_nil hv]
          · obtain ⟨behind, hbehind, hstand⟩ :=
              exists_of_textGroup ho hm hv (by simpa [Part.render_fixed hm] using h) hparts
            refine ih hrest hbehind ?_
            rwa [Part.gathers_fixed hm]
      | capture c =>
          obtain ⟨hc, names', hname, hwf⟩ := hwf
          obtain ⟨behind, hleaves, hstand⟩ := exists_of_capture ho hc hname h hparts
          cases hleaves with
          | behind hbehind => exact ih hwf hbehind hstand
          | taken hb hcore honce hl hbehind =>
              exact not_standFor_of_regexp ho hl hb hcore honce hwf hwrites hbehind hstand

/-- What strict reading gives is read. -/
theorem isRead_of_lex (h : lex .strict t = .ok ls) : IsRead t ls := by
  obtain ⟨ls', hls'⟩ := exists_lexFrom_lenient 0 t
  have hstrict : lexFrom .strict 0 t = .ok ls := h
  rcases @lexFrom_policies [] t ls' hls' with ⟨hread, -⟩ | ⟨e, -, herror, -⟩
  · obtain rfl : ls' = ls := Except.ok.inj (hread.symm.trans hstrict)
    exact ⟨0, hls'⟩
  · cases herror.symm.trans hstrict

/-- **The text of a pattern has no pair of braces too many**: wherever a pair of braces is read in
what is written for the parts of a pattern, the text without this pair is no pattern, or one with
other parts. -/
theorem parse_ne_of_braces (ho : o.Neutral) (h : parse o t = .ok parts)
    {front body behind : List Lexeme} {opening closing : Lexeme}
    (hls : lex .strict (render o parts) = .ok (front ++ opening :: (body ++ closing :: behind)))
    (hopening : opening.kind = .opening) (hclosing : closing.kind = .closing)
    (hbody : ∀ l ∈ body, ¬ l.IsBrace) :
    render o parts =
        spelling front ++ '\x7b' :: (spelling body ++ '\x7d' :: spelling behind) ∧
      parse o (spelling front ++ (spelling body ++ spelling behind)) ≠ .ok parts := by
  have hwf := wellFormed_of_parse h
  have hwrites : WritesBraces o none parts (spelling front) (spelling body) (spelling behind) :=
    writesBraces_of_isRead ho hwf hopening hclosing hbody (isRead_of_lex hls)
  refine ⟨hwrites.renderFrom_eq, fun hparse => ?_⟩
  obtain ⟨ls, hls, hparse⟩ := bind_eq_ok.1 hparse
  exact not_standFor_of_writesBraces ho hwrites hwf (isRead_of_lex hls) (standFor_nil hparse)

/-- `parse_ne_of_braces` at a name that braces keep apart from the text on both sides of it. -/
theorem parse_ne_of_name_in_braces :
    ∃ parts, parse .default ['/', '\x7b', ':', 'a', '\x7d', 'b'] = .ok parts ∧
      lex .strict (render .default parts) = .ok ([⟨.char, 0, ['/']⟩] ++ ⟨.opening, 1, ['\x7b']⟩ ::
        ([⟨.name, 2, ['a']⟩] ++ ⟨.closing, 4, ['\x7d']⟩ ::
          [⟨.char, 5, ['b']⟩, ⟨.finish, 6, []⟩])) ∧
      parse .default ['/', ':', 'a', 'b'] ≠ .ok parts := by
  have hparse : parse .default ['/', '\x7b', ':', 'a', '\x7d', 'b'] = .ok
      [.fixed ['/'] .once, .capture ⟨.named ['a'], [], [], .segment, .once⟩,
        .fixed ['b'] .once] := by
    decide +kernel
  have hlex : lex .strict (render .default
      [.fixed ['/'] .once, .capture ⟨.named ['a'], [], [], .segment, .once⟩,
        .fixed ['b'] .once]) = .ok ([⟨.char, 0, ['/']⟩] ++ ⟨.opening, 1, ['\x7b']⟩ ::
        ([⟨.name, 2, ['a']⟩] ++ ⟨.closing, 4, ['\x7d']⟩ ::
          [⟨.char, 5, ['b']⟩, ⟨.finish, 6, []⟩])) := by
    decide +kernel
  have hbody : ∀ l ∈ [(⟨.name, 2, ['a']⟩ : Lexeme)], ¬ l.IsBrace := by simp [Lexeme.IsBrace]
  have hother := parse_ne_of_braces ReadOptions.neutral_default hparse hlex rfl rfl hbody
  exact ⟨_, hparse, hlex, hother.2⟩

end UrlMatch.Pattern
