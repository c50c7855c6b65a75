import UrlMatch.Pattern.Parser
import UrlMatch.Proofs.Pattern.Lexemes
import UrlMatch.Proofs.Result

/-!
# Well-formed parts

What every list of parts that `parse` returns has in common: no two fixed texts stand side by side
without a modifier on one of them, each fixed text is the canonical form of a text that is not
empty, the names of the captures are the ones that `Naming.assign` gives, one after the other, and
what a capture matches can be written.

## Main results

* `wellFormed_of_parse`: the parts of a pattern are well-formed.
-/

namespace UrlMatch.Pattern

/-! ### Items -/

/-- A core whose name is a name and whose regular expression is one. -/
def Core.Valid : Core → Prop
  | .name n => IsName n
  | .regexp r => IsRegexp r
  | .nameRegexp n r => IsName n ∧ IsRegexp r

/-- The items that valid lexemes group into. -/
def Item.Valid : Item → Prop
  | .plain v => ∃ c, v = [c]
  | .escaped v => ∃ c, v = [c]
  | .bare core _ => core.Valid
  | .textGroup _ _ => True
  | .group _ core _ _ => core.Valid

theorem isRegexp_wildcard : IsRegexp wildcardRegexp :=
  ⟨by simp [wildcardRegexp], by simp [wildcardRegexp],
    .other (by decide) (by decide) (by decide) (.other (by decide) (by decide) (by decide) .nil)⟩

theorem takeCore_suffix (ls : List Lexeme) : (takeCore ls).2 <:+ ls := by
  fun_cases takeCore ls
  · exact ⟨[_, _], rfl⟩
  · exact ⟨[_], rfl⟩
  · exact ⟨[_], rfl⟩
  · exact ⟨[_], rfl⟩
  · exact List.suffix_refl _

theorem takeModifier_suffix (ls : List Lexeme) : (takeModifier ls).2 <:+ ls := by
  fun_cases takeModifier ls
  · exact List.suffix_refl _
  · exact ⟨[_], rfl⟩
  · exact List.suffix_refl _

theorem takeBody_suffix (ls : List Lexeme) : (takeBody ls).2 <:+ ls := by
  have hdrop := List.dropWhile_suffix Lexeme.isText (l := ls)
  have hcore := takeCore_suffix (ls.dropWhile Lexeme.isText)
  rw [takeBody]
  split
  · rename_i rest h
    rw [h] at hcore
    exact hcore.trans hdrop
  · rename_i core rest h
    rw [h] at hcore
    exact (List.dropWhile_suffix _).trans (hcore.trans hdrop)

/-- The core that valid lexemes start with is valid. -/
theorem valid_of_takeCore {ls rest : List Lexeme} {core : Core} (h : ∀ l ∈ ls, l.Valid)
    (hcore : takeCore ls = (some core, rest)) : core.Valid := by
  revert hcore
  fun_cases takeCore ls
  · rintro ⟨⟩
    exact ⟨h _ List.mem_cons_self, h _ (List.mem_cons_of_mem _ List.mem_cons_self)⟩
  · rintro ⟨⟩
    exact h _ List.mem_cons_self
  · rintro ⟨⟩
    exact h _ List.mem_cons_self
  · rintro ⟨⟩
    exact isRegexp_wildcard
  · rintro ⟨⟩

/-- The item of what stands between braces is valid. -/
theorem valid_ofBody {ls : List Lexeme} (h : ∀ l ∈ ls, l.Valid) (m : Modifier) :
    (Item.ofBody (takeBody ls).1 m).Valid := by
  rw [takeBody]
  split
  · trivial
  · rename_i core rest hcore
    exact valid_of_takeCore (fun l hl => h l ((List.dropWhile_suffix _).subset hl)) hcore

/-- Valid lexemes group into valid items. -/
theorem valid_of_ofLexemes {ls : List Lexeme} (h : ∀ l ∈ ls, l.Valid) :
    ∀ i ∈ (Reading.ofLexemes ls).items, i.Valid := by
  fun_induction Reading.ofLexemes ls with
  | case1 | case2 | case5 | case7 | case8 => exact fun _ hi => nomatch hi
  | case3 l rest hk ih =>
      obtain ⟨c, hc, -⟩ : ∃ c, l.value = [c] ∧ (isSpecial c = false ∨ c = ')') := by
        simpa [Lexeme.Valid, hk] using h l List.mem_cons_self
      exact List.forall_mem_cons.2 ⟨⟨c, hc⟩, ih fun l hl => h l (List.mem_cons_of_mem _ hl)⟩
  | case4 l rest hk ih =>
      have hl : ∃ c, l.value = [c] := by simpa [Lexeme.Valid, hk] using h l List.mem_cons_self
      exact List.forall_mem_cons.2 ⟨hl, ih fun l hl => h l (List.mem_cons_of_mem _ hl)⟩
  | case6 l rest hk body close behind hbody hclose m ih =>
      have hrest : ∀ l ∈ rest, l.Valid := fun l hl => h l (List.mem_cons_of_mem _ hl)
      have hbehind : ∀ l ∈ behind, l.Valid := by
        have hs := takeBody_suffix rest
        rw [show (takeBody rest).2 = close :: behind from hbody] at hs
        exact fun l hl => hrest l (hs.subset (List.mem_cons_of_mem _ hl))
      refine List.forall_mem_cons.2 ⟨valid_ofBody hrest m.1, ih fun l hl => ?_⟩
      exact hbehind l ((takeModifier_suffix behind).subset hl)
  | case9 l rest core behind hcore m hk1 hk2 hk3 hk4 ih =>
      refine List.forall_mem_cons.2 ⟨valid_of_takeCore h hcore, ih fun l' hl => ?_⟩
      have hs := takeCore_suffix (l :: rest)
      rw [hcore] at hs
      exact h l' (hs.subset ((takeModifier_suffix behind).subset hl))

/-! ### Parts -/

/-- The name that the author of a pattern gave. -/
def CaptureName.given? : CaptureName → Option Text
  | named n => some n
  | ordinal _ => none

/-- A capture that can be written in a pattern: its name is a name, and what it matches is of the
simplest kind and, where it has to be written out, is a regular expression. -/
structure Capture.Valid (o : ReadOptions) (c : Capture) : Prop where
  name : ∀ n, c.name = .named n → IsName n
  segment : c.kind = .segment → c.isNamed = false → IsRegexp (segmentRegexp o.delimiters)
  custom : ∀ r, c.kind = .custom r →
    IsRegexp r ∧ r ≠ wildcardRegexp ∧ r ≠ segmentRegexp o.delimiters

/-- Parts as they can stand behind the given names, where `behindText` says that a fixed text
without a modifier stands before them. -/
def WellFormed (o : ReadOptions) : (behindText : Bool) → Naming → List Part → Prop
  | _, _, [] => True
  | behindText, names, .fixed v m :: parts =>
    (m = .once → behindText = false) ∧ (∃ s, s ≠ [] ∧ o.encode s = .ok v) ∧
      WellFormed o (m == .once) names parts
  | _, names, .capture c :: parts =>
    c.Valid o ∧ ∃ names', names.assign c.name.given? = .ok (c.name, names') ∧
      WellFormed o false names' parts

/-- The captures among well-formed parts are valid. -/
theorem WellFormed.valid {o : ReadOptions} {behindText : Bool} {names : Naming} {parts : List Part}
    (h : WellFormed o behindText names parts) : ∀ p ∈ parts, ∀ c ∈ p.capture?, c.Valid o := by
  induction parts generalizing behindText names with
  | nil => exact fun _ hp => nomatch hp
  | cons p parts ih =>
      cases p with
      | fixed v m => exact List.forall_mem_cons.2 ⟨by simp [Part.capture?], ih h.2.2⟩
      | capture c =>
          obtain ⟨hvalid, _, -, hrest⟩ := h
          exact List.forall_mem_cons.2 ⟨by simpa [Part.capture?] using hvalid, ih hrest⟩

/-- The canonical form of a text that is not empty is what the encoder gives. -/
theorem canonical_of_ne_nil {o : ReadOptions} {s v : Text} (hs : s ≠ [])
    (h : o.canonical s = .ok v) : o.encode s = .ok v := by
  rw [ReadOptions.canonical, if_neg hs] at h
  split at h
  · rename_i r hr
    cases h
    exact hr
  · cases h

/-- An encoder that changes nothing gives canonical forms that are the texts themselves. -/
theorem canonical_eq_self {o : ReadOptions} (h : ∀ t, o.encode t = .ok t) (v : Text) :
    o.canonical v = .ok v := by
  by_cases hv : v = []
  · simp [ReadOptions.canonical, hv]
  · simp [ReadOptions.canonical, hv, h]

/-- The parts of a pattern that is a literal text. -/
def literalParts (v : Text) : List Part := if v = [] then [] else [.fixed v .once]

@[simp] theorem literalParts_nil : literalParts [] = [] := rfl

theorem literalParts_of_ne_nil {v : Text} (h : v ≠ []) : literalParts v = [.fixed v .once] :=
  if_neg h

/-- What has gathered, where any text is its own canonical form. -/
theorem gathered_eq_self {o : ReadOptions} (h : ∀ t, o.encode t = .ok t) (pending : Text) :
    gathered o pending = .ok (literalParts pending) := by
  by_cases hp : pending = []
  · simp [gathered, literalParts, hp]
  · simp only [gathered, literalParts, hp, if_false, canonical_eq_self h]
    rfl

/-- What has gathered becomes one fixed text, or nothing. -/
theorem eq_of_gathered {o : ReadOptions} {pending : Text} {before : List Part}
    (h : gathered o pending = .ok before) :
    before = [] ∨ ∃ v, before = [.fixed v .once] ∧ ∃ s, s ≠ [] ∧ o.encode s = .ok v := by
  rw [gathered] at h
  split at h
  · cases h
    exact .inl rfl
  · rename_i hp
    obtain ⟨v, hv, ⟨⟩⟩ := bind_eq_ok.1 h
    exact .inr ⟨v, rfl, pending, hp, canonical_of_ne_nil hp hv⟩

/-- What has gathered may stand in front of well-formed parts that start with no fixed text. -/
theorem WellFormed.gathered_append {o : ReadOptions} {pending : Text} {before parts : List Part}
    {names : Naming} (h : gathered o pending = .ok before) (hp : WellFormed o true names parts) :
    WellFormed o false names (before ++ parts) := by
  rcases eq_of_gathered h with rfl | ⟨v, rfl, hv⟩
  · cases parts with
    | nil => trivial
    | cons p parts =>
        cases p with
        | fixed v m => exact ⟨fun _ => rfl, hp.2⟩
        | capture c => exact hp
  · exact ⟨fun _ => rfl, hv, hp⟩

/-- The segment's regular expression is not the wildcard's. -/
theorem segmentRegexp_ne_wildcard (delimiters : Text) :
    segmentRegexp delimiters ≠ wildcardRegexp := by
  rw [segmentRegexp]
  split <;> simp [wildcardRegexp]

/-- Names are given as they are asked for. -/
theorem given?_of_assign {names names' : Naming} {given : Option Text} {name : CaptureName}
    (h : names.assign given = .ok (name, names')) : name.given? = given := by
  cases given with
  | none =>
      cases h
      rfl
  | some n =>
      rw [Naming.assign] at h
      split at h
      · cases h
      · cases h
        rfl

/-- The capture of a valid core is valid, and named by the next name. -/
theorem valid_of_captureOf {o : ReadOptions} {names names' : Naming} {lead trail : Text}
    {core : Core} {m : Modifier} {p : Part} (hcore : core.Valid)
    (h : captureOf o names lead core trail m = .ok (p, names')) :
    ∃ c, p = .capture c ∧ c.Valid o ∧ names.assign c.name.given? = .ok (c.name, names') := by
  obtain ⟨⟨name, names''⟩, hname, h⟩ := bind_eq_ok.1 h
  obtain ⟨lead', hlead, h⟩ := bind_eq_ok.1 h
  obtain ⟨trail', htrail, ⟨⟩⟩ := bind_eq_ok.1 h
  have hgiven := given?_of_assign hname
  refine ⟨_, rfl, ⟨?_, ?_, ?_⟩, hgiven ▸ hname⟩
  · rintro n ⟨⟩
    cases core with
    | name n' | nameRegexp n' r =>
        obtain rfl : n = n' := by simpa [CaptureName.given?, Core.name?] using hgiven
        first | exact hcore | exact hcore.1
    | regexp r => simp [CaptureName.given?, Core.name?] at hgiven
  · intro hk hn
    cases core with
    | name n' | nameRegexp n' r =>
        cases name <;> simp [CaptureName.given?, Core.name?, Capture.isNamed] at hgiven hn
    | regexp r =>
        have hk' : CaptureKind.classify r (segmentRegexp o.delimiters) = .segment := hk
        rw [CaptureKind.classify] at hk'
        split at hk'
        · cases hk'
        · split at hk'
          · rename_i heq
            exact heq ▸ hcore
          · cases hk'
  · intro r hk
    have hclass : ∀ r', IsRegexp r' →
        CaptureKind.classify r' (segmentRegexp o.delimiters) = .custom r →
        IsRegexp r ∧ r ≠ wildcardRegexp ∧ r ≠ segmentRegexp o.delimiters := by
      intro r' hr' hk'
      rw [CaptureKind.classify] at hk'
      split at hk'
      · cases hk'
      · split at hk'
        · cases hk'
        · cases hk'
          exact ⟨hr', ‹_›, ‹_›⟩
    cases core with
    | name n' => cases hk
    | regexp r' => exact hclass r' hcore hk
    | nameRegexp n' r' => exact hclass r' hcore.2 hk

/-- A capture behind what has gathered, and well-formed parts behind it, are well-formed. -/
theorem wellFormed_of_thenCapture {o : ReadOptions} {pending lead trail : Text} {names : Naming}
    {core : Core} {m : Modifier} {behind : Naming → Except Error (List Part)} {parts : List Part}
    (hcore : core.Valid)
    (hbehind : ∀ names parts, behind names = .ok parts → WellFormed o false names parts)
    (h : thenCapture o pending names lead core trail m behind = .ok parts) :
    WellFormed o false names parts := by
  obtain ⟨before, hbefore, h⟩ := bind_eq_ok.1 h
  obtain ⟨⟨p, names'⟩, hp, h⟩ := bind_eq_ok.1 h
  obtain ⟨rest, hrest, ⟨⟩⟩ := bind_eq_ok.1 h
  obtain ⟨c, rfl, hc, hname⟩ := valid_of_captureOf hcore hp
  exact .gathered_append hbefore ⟨hc, names', hname, hbehind names' rest hrest⟩

/-- **Valid items stand for well-formed parts**, whatever has gathered before them. -/
theorem wellFormed_of_partsOf {o : ReadOptions} {ending : Ending} {pending : Text} {names : Naming}
    {items : List Item} {parts : List Part} (hitems : ∀ i ∈ items, i.Valid)
    (h : partsOf o ending pending names items = .ok parts) :
    WellFormed o false names parts := by
  fun_induction partsOf o ending pending names items generalizing parts with
  | case1 pending names =>
      have hg : WellFormed o false names (parts ++ []) := .gathered_append h trivial
      rwa [List.append_nil] at hg
  | case2 pending names i found =>
      obtain ⟨_, -, h⟩ := bind_eq_ok.1 h
      cases h
  | case3 => cases h
  | case4 pending names value core m items _ ih =>
      obtain ⟨hcore, hrest⟩ := List.forall_mem_cons.1 (List.forall_mem_cons.1 hitems).2
      exact wellFormed_of_thenCapture hcore (fun names parts h => ih names hrest h) h
  | case5 pending names value core m items _ ih =>
      obtain ⟨hcore, hrest⟩ := List.forall_mem_cons.1 (List.forall_mem_cons.1 hitems).2
      exact wellFormed_of_thenCapture hcore (fun names parts h => ih names hrest h) h
  | case6 pending names value items _ ih | case7 pending names value items ih =>
      exact ih (List.forall_mem_cons.1 hitems).2 h
  | case8 pending names core m items ih =>
      obtain ⟨hcore, hrest⟩ := List.forall_mem_cons.1 hitems
      exact wellFormed_of_thenCapture hcore (fun names parts h => ih names hrest h) h
  | case9 pending names value items ih | case10 pending names m items _ ih =>
      exact ih (List.forall_mem_cons.1 hitems).2 h
  | case11 pending names value m items hm hv ih =>
      obtain ⟨before, hbefore, h⟩ := bind_eq_ok.1 h
      obtain ⟨v, hvalue, h⟩ := bind_eq_ok.1 h
      obtain ⟨rest, hrest, ⟨⟩⟩ := bind_eq_ok.1 h
      have hwf := ih (List.forall_mem_cons.1 hitems).2 hrest
      refine .gathered_append hbefore ⟨fun h => absurd h hm,
        ⟨value, hv, canonical_of_ne_nil hv hvalue⟩, ?_⟩
      rwa [show (m == .once) = false from beq_eq_false_iff_ne.2 hm]
  | case12 pending names lead core trail m items ih =>
      obtain ⟨hcore, hrest⟩ := List.forall_mem_cons.1 hitems
      exact wellFormed_of_thenCapture hcore (fun names parts h => ih names hrest h) h

/-- **The parts of a pattern are well-formed.** -/
theorem wellFormed_of_parse {o : ReadOptions} {t : Text} {parts : List Part}
    (h : parse o t = .ok parts) : WellFormed o false .empty parts := by
  obtain ⟨ls, hls, h⟩ := bind_eq_ok.1 h
  exact wellFormed_of_partsOf (valid_of_ofLexemes (valid_of_lexFrom hls).1) h

end UrlMatch.Pattern
