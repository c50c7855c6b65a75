import UrlMatch.Pattern.Printer
import UrlMatch.Proofs.Pattern.Escape
import UrlMatch.Proofs.Pattern.Recoding

/-!
# Patterns that begin with a bracket

Whether a pattern begins with an opening bracket, plain, behind a backslash or in braces, can be
seen from its parts, if nothing is taken along by captures: the first of its fixed texts begins
with the bracket. This holds in both directions for the pattern that is written for parts.

## Main results

* `opens_of_parse`: a pattern that begins with a bracket has parts that do.
* `opensBracket_render`: parts that begin with a bracket are written as such a pattern.
-/

namespace UrlMatch.Pattern

/-- The pattern begins with a bracket, plain, behind a backslash or in braces. -/
def opensBracket : Text → Bool
  | '[' :: _ => true
  | '\\' :: '[' :: _ => true
  | '\x7b' :: '[' :: _ => true
  | _ => false

/-- The part begins with a bracket. -/
def Part.opens : Part → Bool
  | fixed v _ => v.head? == some '['
  | capture c => c.lead.head? == some '['

variable {o : ReadOptions} {pending t : Text} {names : Naming} {items : List Item}
  {ending : Ending} {ps : List Part}

/-- A part that begins with a bracket has it in one of its texts. -/
theorem mem_texts_of_opens {q : Part} (h : q.opens) : ∃ v ∈ q.texts, '[' ∈ v := by
  cases q with
  | fixed value m =>
      exact ⟨value, by simp [Part.texts], List.mem_of_mem_head? (by simpa [Part.opens] using h)⟩
  | capture cap =>
      exact ⟨cap.lead, by simp [Part.texts], List.mem_of_mem_head? (by simpa [Part.opens] using h)⟩

/-! ### Reading -/

/-- What has gathered and begins with a bracket is a part that does. -/
theorem opens_of_gathered (hpending : pending.head? = some '[')
    (h : gathered o.plain pending = .ok ps) : ps.head?.any Part.opens := by
  have hne : pending ≠ [] := by
    rintro rfl
    cases hpending
  rw [gathered_plain, literalParts_of_ne_nil hne] at h
  obtain rfl := Except.ok.inj h
  simp [Part.opens, hpending]

/-- Parts behind others do not change how these begin. -/
theorem opens_append {before behind : List Part} (h : before.head?.any Part.opens) :
    (before ++ behind).head?.any Part.opens := by
  cases before with
  | nil => cases h
  | cons p before => exact h

theorem opens_of_thenCapture {lead trail : Text} {core : Core} {m : Modifier}
    {behind : Naming → Except Error (List Part)} (hpending : pending.head? = some '[')
    (h : thenCapture o.plain pending names lead core trail m behind = .ok ps) :
    ps.head?.any Part.opens := by
  obtain ⟨before, hbefore, h⟩ := bind_eq_ok.1 h
  obtain ⟨_, -, h⟩ := bind_eq_ok.1 h
  obtain ⟨_, -, ⟨⟩⟩ := bind_eq_ok.1 h
  exact opens_append (opens_of_gathered hpending hbefore)

theorem head?_append_eq {c : Char} (h : pending.head? = some c) (value : Text) :
    (pending ++ value).head? = some c := by
  rw [List.head?_append, h]
  rfl

/-- A bracket that has gathered first begins the first part. -/
theorem opens_of_pending (hpending : pending.head? = some '[')
    (h : partsOf o.plain ending pending names items = .ok ps) : ps.head?.any Part.opens := by
  fun_induction partsOf o.plain ending pending names items generalizing ps with
  | case1 => exact opens_of_gathered hpending h
  | case2 =>
      obtain ⟨_, -, h⟩ := bind_eq_ok.1 h
      cases h
  | case3 => cases h
  | case4 | case8 | case12 => exact opens_of_thenCapture hpending h
  | case5 => exact opens_of_thenCapture (head?_append_eq hpending _) h
  | case6 _ _ _ _ _ ih | case7 _ _ _ _ ih | case9 _ _ _ _ ih =>
      exact ih (head?_append_eq hpending _) h
  | case10 _ _ _ _ _ ih => exact ih hpending h
  | case11 =>
      obtain ⟨before, hbefore, h⟩ := bind_eq_ok.1 h
      obtain ⟨_, -, h⟩ := bind_eq_ok.1 h
      obtain ⟨_, -, ⟨⟩⟩ := bind_eq_ok.1 h
      exact opens_append (opens_of_gathered hpending hbefore)

/-- A first item that is text and begins with a bracket begins the first part. -/
theorem opens_of_text (hleads : o.leads = []) {i : Item}
    (hi : i = .plain ['['] ∨ i = .escaped ['['])
    (h : partsOf o.plain ending [] names (i :: items) = .ok ps) : ps.head?.any Part.opens := by
  rcases hi with rfl | rfl
  · by_cases hbare : ∃ core m rest, items = .bare core m :: rest
    · obtain ⟨core, m, rest, rfl⟩ := hbare
      have hlead : ¬ o.plain.isLead ['['] := by simp [ReadOptions.plain, ReadOptions.isLead, hleads]
      rw [partsOf, if_neg hlead] at h
      exact opens_of_thenCapture rfl h
    · rw [partsOf] at h
      · exact opens_of_pending rfl h
      · exact fun core m rest heq => hbare ⟨core, m, rest, heq⟩
  · rw [partsOf] at h
    exact opens_of_pending rfl h

/-- A first item in braces that begins with a bracket begins the first part. -/
theorem opens_of_braces {body : Text × Option (Core × Text)} {m : Modifier}
    (hbody : body.1.head? = some '[')
    (h : partsOf o.plain ending [] names (.ofBody body m :: items) = .ok ps) :
    ps.head?.any Part.opens := by
  have hne : body.1 ≠ [] := by
    intro hnil
    rw [hnil] at hbody
    cases hbody
  rw [Item.ofBody] at h
  split at h
  · rw [partsOf] at h
    simp only [hne, if_false] at h
    split at h
    · exact opens_of_pending hbody h
    · obtain ⟨before, hbefore, h⟩ := bind_eq_ok.1 h
      obtain ⟨v, hv, h⟩ := bind_eq_ok.1 h
      obtain ⟨_, -, ⟨⟩⟩ := bind_eq_ok.1 h
      rw [canonical_plain] at hv
      cases hbefore
      cases hv
      simp [Part.opens, hbody]
  · rw [partsOf] at h
    obtain ⟨before, hbefore, h⟩ := bind_eq_ok.1 h
    obtain ⟨⟨p, next⟩, hp, h⟩ := bind_eq_ok.1 h
    obtain ⟨_, -, ⟨⟩⟩ := bind_eq_ok.1 h
    obtain ⟨_, -, hp⟩ := bind_eq_ok.1 hp
    simp only [bind_eq_ok, canonical_plain, Except.ok.injEq, exists_eq_left'] at hp
    cases hbefore
    cases hp
    simp [Part.opens, hbody]

/-- Reading a character that is a lexeme of its own. -/
theorem exists_lexFrom_cons {n k : Nat} {c : Char} {rest : Text} {l : Lexeme} {ls : List Lexeme}
    (hread : readLexeme n c rest = .ok l) (hl : l.written.length = k + 1)
    (h : lexFrom .strict n (c :: rest) = .ok ls) :
    ∃ behind m, ls = l :: behind ∧ lexFrom .strict m (rest.drop k) = .ok behind := by
  rw [lexFrom_cons hread, hl] at h
  obtain ⟨behind, hbehind, ⟨⟩⟩ := bind_eq_ok.1 h
  exact ⟨behind, _, rfl, hbehind⟩

/-- **A pattern that begins with a bracket has parts that do**, if captures take nothing along. -/
theorem opens_of_parse_plain (hleads : o.leads = []) (ht : opensBracket t)
    (h : parse o.plain t = .ok ps) : ps.head?.any Part.opens := by
  obtain ⟨ls, hls, h⟩ := bind_eq_ok.1 h
  rw [opensBracket.eq_def] at ht
  split at ht
  · rename_i rest
    obtain ⟨behind, m, rfl, -⟩ := exists_lexFrom_cons (k := 0) (l := ⟨.char, 0, ['[']⟩) rfl rfl hls
    rw [Reading.ofLexemes] at h
    exact opens_of_text hleads (.inl rfl) h
  · rename_i rest
    obtain ⟨behind, m, rfl, -⟩ :=
      exists_lexFrom_cons (k := 1) (l := ⟨.escapedChar, 0, ['[']⟩) rfl rfl hls
    rw [Reading.ofLexemes] at h
    exact opens_of_text hleads (.inr rfl) h
  · rename_i rest
    obtain ⟨inner, n, rfl, hinner⟩ :=
      exists_lexFrom_cons (k := 0) (l := ⟨.opening, 0, ['\x7b']⟩) rfl rfl hls
    obtain ⟨behind, m, rfl, -⟩ :=
      exists_lexFrom_cons (k := 0) (l := ⟨.char, n, ['[']⟩) rfl rfl hinner
    have hbody : (takeBody (⟨.char, n, ['[']⟩ :: behind)).1.1.head? = some '[' := by
      rw [takeBody]
      split <;> rfl
    rw [Reading.ofLexemes] at h
    simp only at h
    split at h
    · cases h
    · split at h
      · exact opens_of_braces hbody h
      · cases h
  · cases ht

/-- **A pattern that begins with a bracket has parts that do**, where captures take nothing along
and the encoder keeps a bracket in front. -/
theorem opens_of_parse (hleads : o.leads = [])
    (hencode : ∀ s v, o.canonical s = .ok v → s.head? = some '[' → v.head? = some '[')
    (ht : opensBracket t) (h : parse o t = .ok ps) : ps.head?.any Part.opens := by
  obtain ⟨qs, hqs, hall⟩ := parse_eq_ok_iff.1 h
  have hopens := opens_of_parse_plain hleads ht hqs
  cases hall with
  | nil => cases hopens
  | cons hpart _ =>
      cases hpart with
      | fixed m hv =>
          have hhead := hencode _ _ hv (by simpa [Part.opens] using hopens)
          simp [Part.opens, hhead]
      | capture hlead htrail =>
          have hhead := hencode _ _ hlead (by simpa [Part.opens] using hopens)
          simp [Part.opens, hhead]

/-! ### Writing -/

/-- **Parts that begin with a bracket are written as a pattern that does**, where captures take
nothing along. -/
theorem opensBracket_render (hleads : o.leads = []) (h : ps.head?.any Part.opens) :
    opensBracket (render o ps) := by
  have hescape (v : Text) : escape ('[' :: v) = '[' :: escape v := escape_cons_plain (by decide)
  cases ps with
  | nil => cases h
  | cons p ps =>
      rw [render, renderFrom]
      cases p with
      | fixed v m =>
          obtain ⟨v, rfl⟩ := List.head?_eq_some_iff.1 (show v.head? = some '[' by
            simpa [Part.opens] using h)
          cases m <;> simp [Part.render, hescape, opensBracket]
      | capture c =>
          obtain ⟨lead, hlead⟩ := List.head?_eq_some_iff.1 (show c.lead.head? = some '[' by
            simpa [Part.opens] using h)
          have hnot : o.isLead c.lead = false := by
            rw [ReadOptions.isLead.eq_def]
            split
            · simp [hleads]
            · rfl
          have hbraces : c.needsBraces o none ps.head? := by
            rw [hlead] at hnot
            simp [Capture.needsBraces, hnot, hlead]
          rw [Part.render, Capture.render, hbraces]
          simp [Capture.renderBody, hlead, hescape, opensBracket]

end UrlMatch.Pattern
