import UrlMatch.Pattern.Printer
import UrlMatch.Proofs.Pattern.Spelling
import UrlMatch.Proofs.Pattern.WellFormed

/-!
# Writing parts and reading them back

`render` drops braces wherever it can, so what it writes for a part depends on the parts on both
sides. `itemsOf` says which items it writes. That the text spells these items is a matter of the
first characters of what follows each part (`startsModifier_renderFrom`, `endsBefore_renderFrom`);
that the items stand for the parts again is a matter of the last character before each capture
(`partsOf_textItems`).

## Main results

* `spells_renderFrom`: what `render` writes spells the items of the parts.
* `partsOf_itemsOf`: the items of well-formed parts stand for these parts.
* `parse_render`: writing the parts of a pattern gives a pattern with the same parts.
-/

namespace UrlMatch.Pattern

/-! ### The items of parts -/

/-- The items of a fixed text. -/
def textItems (v : Text) : List Item :=
  v.map fun c => if isSpecial c then .escaped [c] else .plain [c]

/-- The core that a capture is written with. -/
def Capture.core (o : ReadOptions) (c : Capture) : Core :=
  match c.name, c.kind with
  | .named n, .segment => .name n
  | .named n, .wildcard => .nameRegexp n wildcardRegexp
  | .named n, .custom r => .nameRegexp n r
  | .ordinal _, .segment => .regexp (segmentRegexp o.delimiters)
  | .ordinal _, .wildcard => .regexp wildcardRegexp
  | .ordinal _, .custom r => .regexp r

/-- The items of a part between two others. -/
def Part.items (o : ReadOptions) (previous : Option Part) (part : Part) (next : Option Part) :
    List Item :=
  match part with
  | .fixed v .once => textItems v
  | .fixed v m => [.textGroup v m]
  | .capture c =>
    if c.needsBraces o previous next then [.group c.lead (c.core o) c.trail c.modifier]
    else textItems c.lead ++ [.bare (c.core o) c.modifier]

/-- The items of parts that follow the part `previous`. -/
def itemsOf (o : ReadOptions) (previous : Option Part) : List Part → List Item
  | [] => []
  | p :: parts => p.items o previous parts.head? ++ itemsOf o (some p) parts

/-- A capture that is written without braces has no trail. -/
theorem trail_of_not_needsBraces {o : ReadOptions} {c : Capture} {previous next : Option Part}
    (h : c.needsBraces o previous next = false) : c.trail = [] := by
  simp only [Capture.needsBraces, Bool.or_eq_false_iff] at h
  simpa using h.1.1.1

/-! ### First characters -/

/-- The first character of an escaped text is a backslash or has no meaning. -/
theorem head_escape {q : Char → Bool} {v : Text} (hv : v ≠ []) (hq : q '\\' = false)
    (h : ∀ c, v.head? = some c → isSpecial c = false → q c = false) (t : Text) :
    (escape v ++ t).head?.any q = false := by
  obtain ⟨c, v, rfl⟩ := List.exists_cons_of_ne_nil hv
  by_cases hc : isSpecial c
  · simp [escape, hc, hq]
  · simp [escape, hc, h c rfl (by simpa using hc)]

/-- The first character of a capture without a name and without a lead. -/
theorem head_renderKind {q : Char → Bool} {o : ReadOptions} {c : Capture} {previous : Option Part}
    (hname : c.isNamed = false) (hlead : c.lead = []) (hparen : q '(' = false)
    (hbare : Capture.asteriskIsBare previous → q '*' = false) (t : Text) :
    (c.renderKind o false previous ++ t).head?.any q = false := by
  rw [Capture.renderKind]
  split
  · simp [hparen]
  · simp [hname, hparen]
  · rw [hname, hlead]
    by_cases hb : Capture.asteriskIsBare previous
    · simp [hb, hbare hb]
    · simp [hb, hparen]

/-- The first character of a part: that of a fixed text or of a lead, or one that starts a
capture. -/
theorem head_render {q : Char → Bool} {o : ReadOptions} {previous next : Option Part} {p : Part}
    (hslash : q '\\' = false) (hbrace : q '\x7b' = false) (hcolon : q ':' = false)
    (hfixed : ∀ v, p = .fixed v .once →
      v ≠ [] ∧ ∀ c, v.head? = some c → isSpecial c = false → q c = false)
    (hlead : ∀ c, p = .capture c → c.needsBraces o previous next = false →
      ∀ ch, c.lead.head? = some ch → isSpecial ch = false → q ch = false)
    (hcore : ∀ c, p = .capture c → c.lead = [] → c.trail = [] → c.isNamed = false →
      q '(' = false ∧ (Capture.asteriskIsBare previous → q '*' = false)) (t : Text) :
    (p.render o previous next ++ t).head?.any q = false := by
  unfold Part.render
  split
  · rename_i v
    exact head_escape (hfixed v rfl).1 hslash (hfixed v rfl).2 t
  · simp [hbrace]
  · rename_i c
    rw [Capture.render]
    by_cases hb : c.needsBraces o previous next
    · simp [hb, hbrace]
    · have hb' : c.needsBraces o previous next = false := by simpa using hb
      have htrail := trail_of_not_needsBraces hb'
      simp only [hb', Capture.renderBody, List.append_assoc, Bool.false_eq_true, if_false]
      by_cases hl : c.lead = []
      · rw [hl]
        cases hn : c.name with
        | named n => simp [escape, hcolon]
        | ordinal k =>
            have hname : c.isNamed = false := by simp [Capture.isNamed, hn]
            obtain ⟨hparen, hbare⟩ := hcore c rfl hl htrail hname
            exact head_renderKind hname hl hparen hbare _
      · exact head_escape hl hslash (hlead c rfl hb') _

/-- No character that writes a modifier is without a meaning. -/
theorem not_modifier_of_not_special {c : Char} (h : isSpecial c = false) :
    decide (c ∈ ['?', '*', '+']) = false := by
  simp only [isSpecial, List.mem_cons, List.not_mem_nil, or_false, decide_eq_false_iff_not,
    not_or] at h ⊢
  exact ⟨h.2.2.1, h.2.1, h.1⟩

/-- Every fixed text among the parts is canonical, so none is empty if any text is. -/
theorem WellFormed.fixed_ne_nil {o : ReadOptions} (hencode : ∀ t, o.encode t = .ok t)
    {behindText : Bool} {names : Naming} {v : Text} {m : Modifier} {parts : List Part}
    (h : WellFormed o behindText names (.fixed v m :: parts)) : v ≠ [] := by
  obtain ⟨-, ⟨s, hs, hv⟩, -⟩ := h
  rw [hencode, Except.ok.injEq] at hv
  exact hv ▸ hs

/-- What is written behind a capture does not start like a modifier. -/
theorem startsModifier_renderFrom {o : ReadOptions} (hencode : ∀ t, o.encode t = .ok t)
    {c : Capture} (hc : c.modifier = .once) {names : Naming} {parts : List Part}
    (h : WellFormed o false names parts) :
    startsModifier (renderFrom o (some (.capture c)) parts) = false := by
  cases parts with
  | nil => rfl
  | cons p parts =>
      refine head_render rfl rfl rfl ?_ ?_ ?_ _
      · rintro v rfl
        exact ⟨h.fixed_ne_nil hencode, fun c _ => not_modifier_of_not_special⟩
      · exact fun _ _ _ c _ => not_modifier_of_not_special
      · exact fun _ _ _ _ _ => ⟨rfl, fun hb => by simp [Capture.asteriskIsBare, hc] at hb⟩

/-- A part of a name has no meaning. -/
theorem isSpecial_eq_false_of_isNamePart {c : Char} (h : isNamePart c) : isSpecial c = false := by
  by_contra hs
  simp only [isSpecial, List.mem_cons, List.not_mem_nil, or_false, decide_eq_false_iff_not,
    not_not] at hs
  rcases hs with rfl | rfl | rfl | rfl | rfl | rfl | rfl | rfl | rfl <;> cases h

/-- A character without a meaning is no parenthesis. -/
theorem ne_paren_of_not_special {c : Char} (h : isSpecial c = false) : c ≠ '(' := by
  rintro rfl
  cases h

/-- A character that would be read as a part of the name before it, or as the regular expression
of that name. -/
def goesOn (c : Char) : Bool := isNamePart c || c == '('

/-- A name ends before a text that starts with a character of another kind. -/
theorem endsBefore_of_goesOn {t : Text} (h : t.head?.any goesOn = false) (core : Core) :
    core.EndsBefore t := by
  cases core with
  | name n =>
      cases t with
      | nil => exact ⟨rfl, by simp⟩
      | cons c t => simpa [Core.EndsBefore, continuesName, goesOn] using h
  | regexp r | nameRegexp n r => trivial

/-- The core of a capture is a name alone only if the capture is a named segment. -/
theorem endsBefore_core {o : ReadOptions} {c : Capture} {t : Text}
    (h : c.isNamed → c.kind = .segment → t.head?.any goesOn = false) :
    (c.core o).EndsBefore t := by
  rw [Capture.core]
  split
  · rename_i n hn hk
    exact endsBefore_of_goesOn (h (by simp [Capture.isNamed, hn]) hk) _
  all_goals trivial

/-- The options of `parse_render`: any text is its own canonical form, and a character that a
capture takes along neither has a meaning in patterns nor continues a name. -/
structure ReadOptions.Neutral (o : ReadOptions) : Prop where
  encode : ∀ t, o.encode t = .ok t
  leads : ∀ c ∈ o.leads, isSpecial c = false ∧ isNamePart c = false

theorem ReadOptions.neutral_default : ReadOptions.default.Neutral := by
  have hleads : defaultLeads.all fun c => !isSpecial c && !isNamePart c := by decide
  exact ⟨fun _ => rfl, fun c hc => by simpa using List.all_eq_true.1 hleads c hc⟩

/-- The lead of a capture without braces is empty or a single character. -/
theorem lead_of_not_needsBraces {o : ReadOptions} {c : Capture} {previous next : Option Part}
    (h : c.needsBraces o previous next = false) : c.lead = [] ∨ ∃ ch ∈ o.leads, c.lead = [ch] := by
  simp only [Capture.needsBraces, Bool.or_eq_false_iff, Bool.and_eq_false_iff] at h
  obtain ⟨⟨⟨-, hlead⟩, -⟩, -⟩ := h
  rcases hlead with hlead | hlead
  · exact .inl (by simpa using hlead)
  · right
    have hl : o.isLead c.lead = true := by simpa using hlead
    unfold ReadOptions.isLead at hl
    split at hl
    · rename_i ch heq
      exact ⟨ch, by simpa using hl, heq⟩
    · cases hl

/-- A part that is not absorbed does not go on with the name before it. -/
theorem head_render_of_not_absorbs {o : ReadOptions} (ho : o.Neutral) {previous next : Option Part}
    {p : Part} (hne : ∀ v, p = .fixed v .once → v ≠ []) (h : Capture.absorbs (some p) = false)
    (t : Text) : (p.render o previous next ++ t).head?.any goesOn = false := by
  refine head_render (by decide) (by decide) (by decide) ?_ ?_ ?_ _
  · rintro v rfl
    refine ⟨hne v rfl, fun ch hch hs => ?_⟩
    have hname : isNamePart ch = false := by
      simpa [Capture.absorbs, continuesName, hch] using h
    simp [goesOn, hname, ne_paren_of_not_special hs]
  · rintro c' rfl hb' ch hch hs
    rcases lead_of_not_needsBraces hb' with hl | ⟨ch', hmem, hl⟩
    · simp [hl] at hch
    · obtain rfl : ch' = ch := by simpa [hl] using hch
      simp [goesOn, (ho.leads ch' hmem).2, ne_paren_of_not_special hs]
  · rintro c' rfl hl ht hname
    simp [Capture.absorbs, hl, ht, hname] at h

/-- A name that is written without braces absorbs nothing. -/
theorem not_absorbs_of_core {o : ReadOptions} {c : Capture} {previous next : Option Part}
    (hb : c.needsBraces o previous next = false) (hn : c.isNamed) (hk : c.kind = .segment)
    (hm : c.modifier = .once) : Capture.absorbs next = false := by
  simp only [Capture.needsBraces, Bool.or_eq_false_iff] at hb
  simpa [Capture.isOpenEnded, hn, hk, hm] using hb.1.2

/-- Behind a capture that is written without braces, its name does not go on. -/
theorem endsBefore_renderFrom {o : ReadOptions} (ho : o.Neutral) {c : Capture}
    {previous : Option Part} {names : Naming} {parts : List Part}
    (hb : c.needsBraces o previous parts.head? = false) (h : WellFormed o false names parts) :
    (c.core o).EndsBefore (c.modifier.text ++ renderFrom o (some (.capture c)) parts) := by
  refine endsBefore_core fun hn hk => ?_
  cases hm : c.modifier with
  | optional | zeroOrMore | oneOrMore =>
      simp only [Modifier.text, List.cons_append, List.head?_cons, Option.any_some]
      decide
  | once =>
      have habsorbs := not_absorbs_of_core hb hn hk hm
      cases parts with
      | nil => rfl
      | cons p parts =>
          refine head_render_of_not_absorbs ho ?_ habsorbs _
          rintro v rfl
          exact h.fixed_ne_nil ho.encode

/-- The backslash that keeps a trail from going on with the name. -/
def Capture.guard (c : Capture) : Text :=
  if c.isNamed && c.kind == .segment && continuesName c.trail then ['\\'] else []

/-- The trail of a capture in braces, with its guard, spells the trail. -/
theorem spellsText_trail (c : Capture) : SpellsText c.trail (c.guard ++ escape c.trail) := by
  rw [Capture.guard]
  split
  · rename_i hg
    cases ht : c.trail with
    | nil => simp [ht, continuesName] at hg
    | cons ch v =>
        have hs : isSpecial ch = false := by
          refine isSpecial_eq_false_of_isNamePart ?_
          simpa [ht, continuesName] using (Bool.and_eq_true_iff.1 hg).2
        have hw : ['\\'] ++ escape (ch :: v) = '\\' :: ch :: escape v := by simp [escape, hs]
        rw [hw]
        exact .escaped ch (spellsText_escape v)
  · exact spellsText_escape _

/-- In braces, the name of a capture ends before its trail. -/
theorem endsBefore_trail (o : ReadOptions) (c : Capture) (t : Text) :
    (c.core o).EndsBefore (c.guard ++ escape c.trail ++ '\x7d' :: t) := by
  refine endsBefore_core fun hn hk => ?_
  by_cases hg : continuesName c.trail
  · simp only [Capture.guard, hn, hk, hg, beq_self_eq_true, Bool.and_self, if_true,
      List.cons_append, List.head?_cons, Option.any_some]
    decide
  · simp only [Capture.guard, hg, Bool.and_false, Bool.false_eq_true, if_false, List.nil_append]
    by_cases ht : c.trail = []
    · simp only [ht, escape, List.flatMap_nil, List.nil_append, List.head?_cons, Option.any_some]
      decide
    · refine head_escape ht (by decide) (fun ch hch hs => ?_) _
      have hname : isNamePart ch = false := by simpa [continuesName, hch] using hg
      simp [goesOn, hname, ne_paren_of_not_special hs]

/-! ### What is written spells the items -/

/-- The text of a capture's name. -/
def Capture.nameText (c : Capture) : Text :=
  match c.name with
  | .named n => ':' :: n
  | .ordinal _ => []

theorem Capture.renderBody_eq (o : ReadOptions) (c : Capture) (braced : Bool)
    (previous : Option Part) :
    c.renderBody o braced previous = escape c.lead ++
      ((c.nameText ++ c.renderKind o braced previous) ++ (c.guard ++ escape c.trail)) := by
  simp only [Capture.renderBody, List.append_assoc]
  rfl

theorem Capture.render_of_needsBraces {o : ReadOptions} {c : Capture} {previous next : Option Part}
    (h : c.needsBraces o previous next) : c.render o previous next =
      '\x7b' :: (c.renderBody o true previous ++ '\x7d' :: c.modifier.text) := by
  simp [Capture.render, h]

/-- Without braces a capture is written without a trail. -/
theorem Capture.render_of_not_needsBraces {o : ReadOptions} {c : Capture}
    {previous next : Option Part} (h : c.needsBraces o previous next = false) :
    c.render o previous next = escape c.lead ++
      ((c.nameText ++ c.renderKind o false previous) ++ c.modifier.text) := by
  simp [Capture.render, Capture.renderBody_eq, h, trail_of_not_needsBraces h, Capture.guard,
    continuesName, escape]

theorem Part.render_fixed {o : ReadOptions} {previous next : Option Part} {v : Text} {m : Modifier}
    (hm : m ≠ .once) : (Part.fixed v m).render o previous next =
      '\x7b' :: (escape v ++ '\x7d' :: m.text) := by
  cases m <;> simp_all [Part.render]

/-- The name and the kind of a capture spell its core. -/
theorem spells_core {o : ReadOptions} {c : Capture} (hc : c.Valid o) (braced : Bool)
    (previous : Option Part) :
    (c.core o).Spells (c.nameText ++ c.renderKind o braced previous) := by
  rw [Capture.core, Capture.nameText, Capture.renderKind]
  cases hn : c.name with
  | named n =>
      have hname := hc.name n hn
      have hnamed : c.isNamed = true := by simp [Capture.isNamed, hn]
      cases hk : c.kind with
      | segment => simpa [hnamed] using Core.Spells.name hname
      | wildcard => simpa [hnamed] using Core.Spells.nameRegexp hname isRegexp_wildcard
      | custom r => simpa using Core.Spells.nameRegexp hname (hc.custom r hk).1
  | ordinal k =>
      have hnamed : c.isNamed = false := by simp [Capture.isNamed, hn]
      cases hk : c.kind with
      | segment => simpa [hnamed] using Core.Spells.regexp (hc.segment hk hnamed)
      | wildcard =>
          dsimp only
          split
          · exact .asterisk
          · exact .regexp isRegexp_wildcard
      | custom r => exact .regexp (hc.custom r hk).1

/-- An escaped text spells its items. -/
theorem spells_textItems (v : Text) {items : List Item} {t : Text} (h : Spells items t) :
    Spells (textItems v ++ items) (escape v ++ t) := by
  induction v with
  | nil => exact h
  | cons c v ih =>
      by_cases hc : isSpecial c
      · simpa [textItems, escape, hc] using Spells.escaped c ih
      · simpa [textItems, escape, hc] using Spells.plain (by simpa using hc) ih

/-- **What `render` writes spells the items** of well-formed parts. -/
theorem spells_renderFrom {o : ReadOptions} (ho : o.Neutral) {behindText : Bool} {names : Naming}
    {parts : List Part} (h : WellFormed o behindText names parts) (previous : Option Part) :
    Spells (itemsOf o previous parts) (renderFrom o previous parts) := by
  induction parts generalizing behindText names previous with
  | nil => exact .nil
  | cons p parts ih =>
      rw [itemsOf, renderFrom]
      cases p with
      | fixed v m =>
          have hrest := ih h.2.2 (some (.fixed v m))
          cases m with
          | once => exact spells_textItems v hrest
          | optional | zeroOrMore | oneOrMore =>
              simpa [Part.items, Part.render] using
                Spells.textGroup (spellsText_escape v) (by simp) hrest
      | capture c =>
          obtain ⟨hc, names', -, hparts⟩ := h
          have hrest := ih hparts (some (.capture c))
          have hmod : c.modifier = .once →
              startsModifier (renderFrom o (some (.capture c)) parts) = false :=
            fun hm => startsModifier_renderFrom ho.encode hm hparts
          rw [Part.items, Part.render]
          by_cases hb : c.needsBraces o previous parts.head?
          · have hend := endsBefore_trail o c
              (c.modifier.text ++ renderFrom o (some (.capture c)) parts)
            have hgroup := Spells.group (spellsText_escape c.lead) (spells_core hc true previous)
              (spellsText_trail c) hend hmod hrest
            rw [if_pos hb, Capture.render_of_needsBraces hb, Capture.renderBody_eq]
            simpa using hgroup
          · have hb' : c.needsBraces o previous parts.head? = false := by simpa using hb
            have hend := endsBefore_renderFrom ho hb' hparts
            have hbare := Spells.bare (spells_core hc false previous) hend hmod hrest
            rw [if_neg hb, Capture.render_of_not_needsBraces hb']
            simpa using spells_textItems c.lead hbare

/-! ### The items stand for the parts -/

/-- A character that no capture takes along gathers. -/
theorem partsOf_plain {o : ReadOptions} {ending : Ending} {pending value : Text} {names : Naming}
    {items : List Item} (h : ∀ core m rest, items = .bare core m :: rest → o.isLead value = false) :
    partsOf o ending pending names (.plain value :: items)
      = partsOf o ending (pending ++ value) names items := by
  by_cases hbare : ∃ core m rest, items = .bare core m :: rest
  · obtain ⟨core, m, rest, rfl⟩ := hbare
    rw [partsOf, if_neg (by simp [h core m rest rfl]), partsOf]
  · rw [partsOf]
    exact fun core m rest heq => hbare ⟨core, m, rest, heq⟩

/-- **The items of a text gather**, unless a capture takes along its last character. -/
theorem partsOf_textItems {o : ReadOptions} {ending : Ending} {pending v : Text} {names : Naming}
    {items : List Item}
    (h : ∀ core m rest, items = .bare core m :: rest → v.getLast?.any (· ∈ o.leads) = false) :
    partsOf o ending pending names (textItems v ++ items)
      = partsOf o ending (pending ++ v) names items := by
  induction v generalizing pending with
  | nil => simp [textItems]
  | cons c v ih =>
      have hv : partsOf o ending (pending ++ [c]) names (textItems v ++ items)
          = partsOf o ending (pending ++ c :: v) names items := by
        rw [ih, List.append_assoc, List.singleton_append]
        intro core m rest heq
        have hlast := h core m rest heq
        cases v with
        | nil => rfl
        | cons d v => simpa [List.getLast?_cons_cons] using hlast
      rw [← hv]
      by_cases hc : isSpecial c
      · simp only [textItems, List.map_cons, hc, if_true, List.cons_append]
        rw [partsOf]
      · simp only [textItems, List.map_cons, hc, Bool.false_eq_true, if_false, List.cons_append]
        refine partsOf_plain fun core m rest heq => ?_
        cases v with
        | nil => simpa [ReadOptions.isLead] using h core m rest heq
        | cons d v =>
            by_cases hd : isSpecial d <;> simp [hd] at heq

/-- The core that a capture is written with stands for its kind. -/
theorem kind_core {o : ReadOptions} {c : Capture} (hc : c.Valid o) :
    (c.core o).regexp?.elim .segment (CaptureKind.classify · (segmentRegexp o.delimiters))
      = c.kind := by
  have hseg : CaptureKind.classify (segmentRegexp o.delimiters) (segmentRegexp o.delimiters)
      = .segment := by
    rw [CaptureKind.classify, if_neg (segmentRegexp_ne_wildcard _), if_pos rfl]
  have hcustom : ∀ r, c.kind = .custom r →
      CaptureKind.classify r (segmentRegexp o.delimiters) = .custom r := by
    intro r hr
    obtain ⟨-, hw, hs⟩ := hc.custom r hr
    rw [CaptureKind.classify, if_neg hw, if_neg hs]
  rw [Capture.core]
  cases c.name <;> cases hk : c.kind
  all_goals simp only [Core.regexp?, Option.elim]
  case named.wildcard | ordinal.wildcard => rfl
  case named.custom r | ordinal.custom r => exact hcustom r hk
  case ordinal.segment => exact hseg

/-- The core that a capture is written with asks for its name. -/
theorem name?_core (o : ReadOptions) (c : Capture) : (c.core o).name? = c.name.given? := by
  rw [Capture.core]
  cases c.name <;> cases c.kind <;> rfl

/-- **A capture is read back** behind whatever has gathered. -/
theorem thenCapture_core {o : ReadOptions} (ho : o.Neutral) {c : Capture} (hc : c.Valid o)
    {names names' : Naming} (hname : names.assign c.name.given? = .ok (c.name, names'))
    (behind : Naming → Except Error (List Part)) {parts : List Part}
    (hbehind : behind names' = .ok parts) (pending : Text) :
    thenCapture o pending names c.lead (c.core o) c.trail c.modifier behind
      = .ok (literalParts pending ++ .capture c :: parts) := by
  have hkind := kind_core hc
  simp only [thenCapture, captureOf, gathered_eq_self ho.encode, canonical_eq_self ho.encode,
    name?_core, hname, ok_bind, hbehind, pure_bind]
  cases hr : (c.core o).regexp? with
  | none | some r =>
      rw [hr] at hkind
      simp only [Option.elim] at hkind
      simp only [hkind]
      rfl

/-- The text of a part that gathers in front of the next one. -/
def Part.gathers : Option Part → Text
  | some (.fixed v .once) => v
  | _ => []

theorem Part.gathers_fixed {v : Text} {m : Modifier} (hm : m ≠ .once) :
    Part.gathers (some (.fixed v m)) = [] := by
  cases m <;> simp_all [Part.gathers]

/-- Behind a fixed text, parts are well-formed behind what gathers of it. -/
theorem WellFormed.behind_fixed {o : ReadOptions} (hencode : ∀ t, o.encode t = .ok t)
    {behindText : Bool} {names : Naming} {v : Text} {m : Modifier} {parts : List Part}
    (h : WellFormed o behindText names (.fixed v m :: parts)) :
    WellFormed o (Part.gathers (some (.fixed v m)) != []) names parts := by
  have hv := h.fixed_ne_nil hencode
  have hgathers : (Part.gathers (some (.fixed v m)) != []) = (m == .once) := by
    cases m <;> simp_all [Part.gathers]
  rw [hgathers]
  exact h.2.2

theorem Part.items_fixed {o : ReadOptions} {previous next : Option Part} {v : Text} {m : Modifier}
    (hm : m ≠ .once) : (Part.fixed v m).items o previous next = [.textGroup v m] := by
  cases m <;> simp_all [Part.items]

/-- A capture would take along the last character of what gathers in front of it. -/
theorem takesFrom_eq (o : ReadOptions) (previous : Option Part) :
    Capture.takesFrom o previous = (Part.gathers previous).getLast?.any (· ∈ o.leads) := by
  match previous with
  | none | some (.capture _) => rfl
  | some (.fixed v m) => cases m <;> rfl

/-- A capture that is written without braces leaves the text before it alone. -/
theorem getLast?_gathers {o : ReadOptions} {c : Capture} {previous next : Option Part}
    (h : c.needsBraces o previous next = false) (hlead : c.lead = []) :
    (Part.gathers previous).getLast?.any (· ∈ o.leads) = false := by
  simp only [Capture.needsBraces, hlead, Bool.or_eq_false_iff, Bool.and_eq_false_iff] at h
  rw [← takesFrom_eq]
  simpa using h.2

/-- Only a capture without braces and without a lead starts with a bare item. -/
theorem not_needsBraces_of_itemsOf {o : ReadOptions} {previous : Option Part} {parts : List Part}
    {core : Core} {m : Modifier} {rest : List Item}
    (hne : ∀ v, .fixed v .once ∈ parts.head? → v ≠ [])
    (h : itemsOf o previous parts = .bare core m :: rest) :
    ∃ c parts', parts = .capture c :: parts' ∧ c.lead = [] ∧
      c.needsBraces o previous parts'.head? = false := by
  cases parts with
  | nil => cases h
  | cons p parts =>
      rw [itemsOf] at h
      cases p with
      | fixed v m =>
          cases m with
          | once =>
              obtain ⟨c, v, rfl⟩ := List.exists_cons_of_ne_nil (hne v rfl)
              by_cases hc : isSpecial c <;> simp [Part.items, textItems, hc] at h
          | optional | zeroOrMore | oneOrMore => simp [Part.items] at h
      | capture c =>
          rw [Part.items] at h
          by_cases hb : c.needsBraces o previous parts.head?
          · simp [hb] at h
          · refine ⟨c, parts, rfl, ?_, by simpa using hb⟩
            by_contra hl
            obtain ⟨ch, v, hv⟩ := List.exists_cons_of_ne_nil hl
            by_cases hc : isSpecial ch <;> simp [hb, hv, textItems, hc] at h

/-- The items of a capture stand for this capture, behind what has gathered. -/
theorem partsOf_items_capture {o : ReadOptions} (ho : o.Neutral) {c : Capture}
    {previous next : Option Part} {pending : Text} {names : Naming} {rest : List Item} :
    partsOf o .complete pending names ((Part.capture c).items o previous next ++ rest) =
      thenCapture o pending names c.lead (c.core o) c.trail c.modifier
        (fun names => partsOf o .complete [] names rest) := by
  rw [Part.items]
  by_cases hb : c.needsBraces o previous next
  · rw [if_pos hb, List.singleton_append, partsOf]
  · have hb' : c.needsBraces o previous next = false := by simpa using hb
    have htrail := trail_of_not_needsBraces hb'
    rw [if_neg hb, htrail]
    rcases lead_of_not_needsBraces hb' with hl | ⟨ch, hmem, hl⟩
    · rw [hl, textItems, List.map_nil, List.nil_append, List.singleton_append, partsOf]
    · have hs : isSpecial ch = false := (ho.leads ch hmem).1
      rw [hl, textItems, List.map_singleton, hs, if_neg (by simp), List.append_assoc,
        List.singleton_append, List.singleton_append, partsOf,
        if_pos (by simpa [ReadOptions.isLead] using hmem)]

/-- **The items of well-formed parts stand for these parts**, in front of which the text before
them has gathered. -/
theorem partsOf_itemsOf {o : ReadOptions} (ho : o.Neutral) {names : Naming} {parts : List Part}
    {previous : Option Part}
    (h : WellFormed o (Part.gathers previous != []) names parts) :
    partsOf o .complete (Part.gathers previous) names (itemsOf o previous parts)
      = .ok (literalParts (Part.gathers previous) ++ parts) := by
  induction parts generalizing names previous with
  | nil =>
      rw [itemsOf, partsOf, List.append_nil]
      exact gathered_eq_self ho.encode _
  | cons p parts ih =>
      rw [itemsOf]
      cases p with
      | fixed v m =>
          have hv := h.fixed_ne_nil ho.encode
          have hih := @ih names (some (.fixed v m)) (h.behind_fixed ho.encode)
          by_cases hm : m = .once
          · subst hm
            have hg : Part.gathers previous = [] := by simpa using h.1 rfl
            rw [Part.items, partsOf_textItems, hg, List.nil_append]
            · simpa [Part.gathers, literalParts_of_ne_nil hv] using hih
            · intro core m rest heq
              obtain ⟨c, parts', rfl, hlead, hb⟩ := not_needsBraces_of_itemsOf (fun w hw => by
                cases parts with
                | nil => cases hw
                | cons p parts =>
                    obtain rfl : p = .fixed w .once := by simpa using hw
                    exact WellFormed.fixed_ne_nil ho.encode h.2.2) heq
              exact getLast?_gathers hb hlead
          · rw [Part.gathers_fixed hm, literalParts_nil, List.nil_append] at hih
            rw [Part.items_fixed hm, List.singleton_append, partsOf, if_neg hm, if_neg hv]
            simp only [gathered_eq_self ho.encode, canonical_eq_self ho.encode, ok_bind, hih]
            rfl
      | capture c =>
          obtain ⟨hc, names', hname, hparts⟩ := h
          have hih :
              partsOf o .complete [] names' (itemsOf o (some (.capture c)) parts) = .ok parts :=
            @ih names' (some (.capture c)) hparts
          rw [partsOf_items_capture ho]
          exact thenCapture_core ho hc hname
            (fun names => partsOf o .complete [] names (itemsOf o (some (.capture c)) parts))
            hih (Part.gathers previous)

/-- **Writing the parts of a pattern gives a pattern with the same parts**: the same names and
numbers, kinds, leads, trails, modifiers and fixed texts. -/
theorem parse_render {o : ReadOptions} (ho : o.Neutral) {t : Text} {parts : List Part}
    (h : parse o t = .ok parts) : parse o (render o parts) = .ok parts := by
  have hwf := wellFormed_of_parse h
  rw [render, parse_of_spells o (spells_renderFrom ho hwf none)]
  exact @partsOf_itemsOf o ho .empty parts none hwf

/-- `parse_render` at a name that braces keep apart from the text on both sides of it. -/
theorem parse_render_braced_name :
    ReadOptions.default.Neutral ∧
      parse .default ['/', '\x7b', ':', 'a', '\x7d', 'b'] = .ok
        [.fixed ['/'] .once, .capture ⟨.named ['a'], [], [], .segment, .once⟩,
          .fixed ['b'] .once] ∧
      parse .default (render .default
        [.fixed ['/'] .once, .capture ⟨.named ['a'], [], [], .segment, .once⟩,
          .fixed ['b'] .once]) = .ok
        [.fixed ['/'] .once, .capture ⟨.named ['a'], [], [], .segment, .once⟩,
          .fixed ['b'] .once] := by
  have ho := ReadOptions.neutral_default
  have hname : IsName ['a'] := ⟨by decide, by decide⟩
  have hspells : Spells
      [.plain ['/'], .group [] (.name ['a']) [] .once, .plain ['b']]
      ['/', '\x7b', ':', 'a', '\x7d', 'b'] :=
    .plain (by decide) (.group .nil (.name hname) .nil ⟨by decide, by decide⟩ (fun _ => by decide)
      (.plain (by decide) .nil))
  have hparse := parse_of_spells .default hspells
  exact ⟨ho, hparse, parse_render ho hparse⟩

end UrlMatch.Pattern
