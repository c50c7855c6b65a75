import UrlMatch.Pattern.Parser
import UrlMatch.Proofs.Pattern.Positions
import UrlMatch.Proofs.Result

/-!
# How items are written

`Spells items t` says that a text `t` is a way to write items: a character can be written plainly
or behind a backslash, the wildcard as an asterisk or as a regular expression, and where an item
leaves something open that the next one could claim, the first character behind it decides.

## Main results

* `Spells.lexes`: a text that spells items is read as these items, wherever it starts.
-/

namespace UrlMatch.Pattern

/-! ### What reading leads to -/

/-- Wherever the text starts, reading succeeds and its lexemes satisfy `P`. -/
def Lexes (policy : LexPolicy) (t : Text) (P : List Lexeme → Prop) : Prop :=
  ∀ start, ∃ ls, lexFrom policy start t = .ok ls ∧ P ls

/-- The first character of the text writes a modifier. -/
def startsModifier (t : Text) : Bool := t.head?.any (· ∈ ['?', '*', '+'])

variable {policy : LexPolicy} {t : Text} {P : List Lexeme → Prop}

theorem Lexes.mono {Q : List Lexeme → Prop} (h : Lexes policy t P) (hPQ : ∀ ls, P ls → Q ls) :
    Lexes policy t Q := by
  intro start
  obtain ⟨ls, hls, hP⟩ := h start
  exact ⟨ls, hls, hPQ ls hP⟩

/-- The empty text is read as the end. -/
theorem lexes_nil (h : ∀ start, P [⟨.finish, start, []⟩]) : Lexes policy [] P := by
  intro start
  refine ⟨_, ?_, h start⟩
  rw [lexFrom]

/-- A lexeme in front of a text is read before the text. -/
theorem Lexes.written {k : LexemeKind} {v : Text} (hv : (⟨k, 0, v⟩ : Lexeme).Valid)
    (hf : k ≠ .finish) (ht : k = .name → continuesName t = false) (h : Lexes policy t P) :
    Lexes policy ((⟨k, 0, v⟩ : Lexeme).written ++ t)
      (fun ls => ∃ start rest, ls = ⟨k, start, v⟩ :: rest ∧ P rest) := by
  intro start
  obtain ⟨ls, hls, hP⟩ := h (start + Text.utf8Size (⟨k, 0, v⟩ : Lexeme).written)
  refine ⟨⟨k, start, v⟩ :: ls, ?_, start, ls, rfl, hP⟩
  have hw := lexFrom_written policy (l := ⟨k, start, v⟩) hv hf ht
  exact hw.trans (bind_eq_ok.2 ⟨ls, hls, rfl⟩)

/-- No modifier is read from a text that does not start with one. -/
theorem takeModifier_of_lexFrom {start : Nat} {ls : List Lexeme}
    (h : lexFrom policy start t = .ok ls) (ht : startsModifier t = false) :
    takeModifier ls = (.once, ls) := by
  cases ls with
  | nil => rfl
  | cons l ls =>
      rw [takeModifier, if_neg]
      rintro (hk | hk)
      · obtain ⟨hl, hhead⟩ := head_written_of_lexFrom h (by simp [hk]) (by simp [hk])
        have hv : l.value = ['+'] ∨ l.value = ['?'] := by simpa [Lexeme.Valid, hk] using hl
        rcases hv with hv | hv <;> simp [startsModifier, ← hhead, Lexeme.written, hk, hv] at ht
      · obtain ⟨hl, hhead⟩ := head_written_of_lexFrom h (by simp [hk]) (by simp [hk])
        have hv : l.value = ['*'] := by simpa [Lexeme.Valid, hk] using hl
        simp [startsModifier, ← hhead, Lexeme.written, hk, hv] at ht

/-- A modifier in front of a text is read as one, and where none is written none is read. -/
theorem Lexes.modifier (m : Modifier) (hm : m = .once → startsModifier t = false)
    (h : Lexes policy t P) :
    Lexes policy (m.text ++ t) (fun ls => (takeModifier ls).1 = m ∧ P (takeModifier ls).2) := by
  cases m with
  | once =>
      intro start
      obtain ⟨ls, hls, hP⟩ := h start
      have htake := takeModifier_of_lexFrom hls (hm rfl)
      exact ⟨ls, hls, by simp [htake, hP]⟩
  | optional =>
      refine (h.written (k := .modifier) (v := ['?']) (.inr rfl) (by simp) (by simp)).mono ?_
      rintro _ ⟨start, rest, rfl, hP⟩
      exact ⟨rfl, hP⟩
  | zeroOrMore =>
      refine (h.written (k := .asterisk) (v := ['*']) rfl (by simp) (by simp)).mono ?_
      rintro _ ⟨start, rest, rfl, hP⟩
      exact ⟨rfl, hP⟩
  | oneOrMore =>
      refine (h.written (k := .modifier) (v := ['+']) (.inl rfl) (by simp) (by simp)).mono ?_
      rintro _ ⟨start, rest, rfl, hP⟩
      exact ⟨rfl, hP⟩

/-! ### Text -/

/-- The ways to write fixed text: a character without a meaning may stand plainly, and any
character may stand behind a backslash. -/
inductive SpellsText : Text → Text → Prop
  | nil : SpellsText [] []
  | plain {c : Char} {v w : Text} : isSpecial c = false → SpellsText v w →
      SpellsText (c :: v) (c :: w)
  | escaped (c : Char) {v w : Text} : SpellsText v w → SpellsText (c :: v) ('\\' :: c :: w)

/-- `escape` writes a text. -/
theorem spellsText_escape (v : Text) : SpellsText v (escape v) := by
  induction v with
  | nil => exact .nil
  | cons c v ih =>
      rw [escape, List.flatMap_cons]
      by_cases hc : isSpecial c
      · rw [if_pos hc]
        exact .escaped c ih
      · rw [if_neg hc]
        exact .plain (by simpa using hc) ih

/-- Fixed text is read up to the first lexeme that is none. -/
theorem Lexes.text {v w : Text} (hw : SpellsText v w)
    (hP : ∀ ls, P ls → ls.takeWhile Lexeme.isText = [])
    (h : Lexes policy t P) :
    Lexes policy (w ++ t)
      (fun ls => textOf (ls.takeWhile Lexeme.isText) = v ∧ P (ls.dropWhile Lexeme.isText)) := by
  induction hw with
  | nil =>
      refine h.mono fun ls hls => ?_
      have htake := hP ls hls
      have hdrop : ls.dropWhile Lexeme.isText = ls := by
        have := List.takeWhile_append_dropWhile (p := Lexeme.isText) (l := ls)
        rwa [htake, List.nil_append] at this
      rw [htake, hdrop]
      exact ⟨rfl, hls⟩
  | @plain c v w hc _ ih =>
      refine (ih.written (k := .char) (v := [c]) ⟨c, rfl, .inl hc⟩ (by simp) (by simp)).mono ?_
      rintro _ ⟨start, rest, rfl, rfl, hrest⟩
      exact ⟨rfl, hrest⟩
  | @escaped c v w _ ih =>
      refine (ih.written (k := .escapedChar) (v := [c]) ⟨c, rfl⟩ (by simp) (by simp)).mono ?_
      rintro _ ⟨start, rest, rfl, rfl, hrest⟩
      exact ⟨rfl, hrest⟩

/-! ### Cores -/

/-- The ways to write the core of a capture. -/
inductive Core.Spells : Core → Text → Prop
  | name {n : Text} : IsName n → Spells (.name n) (':' :: n)
  | regexp {r : Text} : IsRegexp r → Spells (.regexp r) ('(' :: r ++ [')'])
  | nameRegexp {n r : Text} : IsName n → IsRegexp r →
      Spells (.nameRegexp n r) (':' :: n ++ '(' :: r ++ [')'])
  | asterisk : Spells (.regexp wildcardRegexp) ['*']

/-- Nothing at the front of the text can be read as a part of the core: a name goes on, and takes
a regular expression, as long as it can. -/
def Core.EndsBefore (core : Core) (t : Text) : Prop :=
  match core with
  | .name _ => continuesName t = false ∧ t.head? ≠ some '('
  | _ => True

/-- A lexeme that starts the core of a capture. -/
def Lexeme.startsCore (l : Lexeme) : Prop := l.kind = .name ∨ l.kind = .regexp ∨ l.kind = .asterisk

/-- A regular expression is read only from an opening parenthesis. -/
theorem kind_ne_regexp_of_lexFrom {start : Nat} {l : Lexeme} {ls : List Lexeme}
    (h : lexFrom policy start t = .ok (l :: ls)) (ht : t.head? ≠ some '(') : l.kind ≠ .regexp := by
  intro hk
  obtain ⟨-, hhead⟩ := head_written_of_lexFrom h (by simp [hk]) (by simp [hk])
  exact ht (by simp [← hhead, Lexeme.written, hk])

/-- A core in front of a text that it ends before is read before the text. -/
theorem Lexes.core {core : Core} {w : Text} (hw : core.Spells w) (ht : core.EndsBefore t)
    (h : Lexes policy t P) :
    Lexes policy (w ++ t) (fun ls => ∃ l rest behind, ls = l :: rest ∧ l.startsCore ∧
      takeCore (l :: rest) = (some core, behind) ∧ P behind) := by
  cases hw with
  | @name n hn =>
      intro start
      have h' : Lexes policy t (fun ls => P ls ∧ ∀ l rest, ls = l :: rest → l.kind ≠ .regexp) := by
        intro start
        obtain ⟨ls, hls, hP⟩ := h start
        refine ⟨ls, hls, hP, ?_⟩
        rintro l rest rfl
        exact kind_ne_regexp_of_lexFrom hls ht.2
      obtain ⟨ls, hls, hQ⟩ := h'.written (k := .name) (v := n) hn (by simp)
        (fun _ => ht.1) start
      refine ⟨ls, hls, ?_⟩
      obtain ⟨start, rest, rfl, hP, hr⟩ := hQ
      refine ⟨_, rest, rest, rfl, .inl rfl, ?_, hP⟩
      cases rest with
      | nil => rfl
      | cons l rest =>
          have hk := hr l rest rfl
          obtain ⟨kind, start', value⟩ := l
          cases kind <;> simp_all [takeCore]
  | @regexp r hr =>
      have hw : '(' :: r ++ [')'] ++ t = (⟨.regexp, 0, r⟩ : Lexeme).written ++ t := rfl
      rw [hw]
      refine (h.written (k := .regexp) (v := r) hr (by simp) (by simp)).mono ?_
      rintro _ ⟨start, rest, rfl, hP⟩
      exact ⟨_, rest, rest, rfl, .inr (.inl rfl), rfl, hP⟩
  | @nameRegexp n r hn hr =>
      have hw : ':' :: n ++ '(' :: r ++ [')'] ++ t
          = (⟨.name, 0, n⟩ : Lexeme).written ++ ((⟨.regexp, 0, r⟩ : Lexeme).written ++ t) := by
        simp [Lexeme.written]
      rw [hw]
      refine ((h.written (k := .regexp) (v := r) hr (by simp) (by simp)).written
        (k := .name) (v := n) hn (by simp) (fun _ => ?_)).mono ?_
      · rfl
      · rintro _ ⟨start, _, rfl, start', rest, rfl, hP⟩
        exact ⟨_, _, rest, rfl, .inl rfl, rfl, hP⟩
  | asterisk =>
      refine (h.written (k := .asterisk) (v := ['*']) rfl (by simp) (by simp)).mono ?_
      rintro _ ⟨start, rest, rfl, hP⟩
      exact ⟨_, rest, rest, rfl, .inr (.inr rfl), rfl, hP⟩

/-! ### Items -/

/-- The ways to write items. -/
inductive Spells : List Item → Text → Prop
  | nil : Spells [] []
  | plain {c : Char} {items : List Item} {t : Text} : isSpecial c = false → Spells items t →
      Spells (.plain [c] :: items) (c :: t)
  | escaped (c : Char) {items : List Item} {t : Text} : Spells items t →
      Spells (.escaped [c] :: items) ('\\' :: c :: t)
  | bare {core : Core} {m : Modifier} {w : Text} {items : List Item} {t : Text} :
      core.Spells w → core.EndsBefore (m.text ++ t) → (m = .once → startsModifier t = false) →
      Spells items t → Spells (.bare core m :: items) (w ++ (m.text ++ t))
  | textGroup {v w : Text} {m : Modifier} {items : List Item} {t : Text} :
      SpellsText v w → (m = .once → startsModifier t = false) → Spells items t →
      Spells (.textGroup v m :: items) ('\x7b' :: (w ++ '\x7d' :: (m.text ++ t)))
  | group {lead trail u v w : Text} {core : Core} {m : Modifier} {items : List Item} {t : Text} :
      SpellsText lead u → core.Spells w → SpellsText trail v →
      core.EndsBefore (v ++ '\x7d' :: (m.text ++ t)) → (m = .once → startsModifier t = false) →
      Spells items t → Spells (.group lead core trail m :: items)
        ('\x7b' :: (u ++ (w ++ (v ++ '\x7d' :: (m.text ++ t)))))

/-- A core outside of braces is an item, with the modifier behind it. -/
theorem ofLexemes_bare {l : Lexeme} {rest behind : List Lexeme} {core : Core}
    (hl : l.startsCore) (h : takeCore (l :: rest) = (some core, behind)) :
    Reading.ofLexemes (l :: rest) = .cons (.bare core (takeModifier behind).1)
      (Reading.ofLexemes (takeModifier behind).2) := by
  rw [Reading.ofLexemes]
  rcases hl with hk | hk | hk
  all_goals
    simp only [hk]
    split
    · simp_all
    · simp_all

/-- A pair of braces is an item, with the modifier behind it. -/
theorem ofLexemes_braces {start : Nat} {value : Text} {rest behind : List Lexeme}
    {body : Text × Option (Core × Text)} {close : Lexeme}
    (h : takeBody rest = (body, close :: behind)) (hc : close.kind = .closing) :
    Reading.ofLexemes (⟨.opening, start, value⟩ :: rest)
      = .cons (.ofBody body (takeModifier behind).1)
        (Reading.ofLexemes (takeModifier behind).2) := by
  rw [Reading.ofLexemes]
  simp only
  split
  · simp_all
  · simp_all

/-- A closing brace in front of a text is read before it. -/
theorem Lexes.closing (h : Lexes policy t P) :
    Lexes policy ('\x7d' :: t) (fun ls => ∃ close behind, ls = close :: behind ∧
      close.kind = .closing ∧ P behind) := by
  refine (h.written (k := .closing) (v := ['\x7d']) rfl (by simp) (by simp)).mono ?_
  rintro _ ⟨start, rest, rfl, hP⟩
  exact ⟨_, rest, rfl, rfl, hP⟩

/-- A lexeme that starts a core, or a closing brace, ends fixed text. -/
theorem takeWhile_isText_cons {l : Lexeme} (h : l.startsCore ∨ l.kind = .closing)
    (ls : List Lexeme) : (l :: ls).takeWhile Lexeme.isText = [] := by
  have hl : l.isText = false := by
    rcases h with (h | h | h) | h <;> simp [Lexeme.isText, h]
  simp [hl]

/-- A character without a meaning is an item in front of a text. -/
theorem Lexes.plain {c : Char} (hc : isSpecial c = false) (h : Lexes policy t P) :
    Lexes policy (c :: t) (fun ls => ∃ behind, P behind ∧
      Reading.ofLexemes ls = .cons (.plain [c]) (Reading.ofLexemes behind)) := by
  refine (h.written (k := .char) (v := [c]) ⟨c, rfl, .inl hc⟩ (by simp) (by simp)).mono ?_
  rintro _ ⟨start, behind, rfl, hP⟩
  exact ⟨behind, hP, by rw [Reading.ofLexemes]⟩

/-- A character behind a backslash is an item in front of a text. -/
theorem Lexes.escaped (c : Char) (h : Lexes policy t P) :
    Lexes policy ('\\' :: c :: t) (fun ls => ∃ behind, P behind ∧
      Reading.ofLexemes ls = .cons (.escaped [c]) (Reading.ofLexemes behind)) := by
  refine (h.written (k := .escapedChar) (v := [c]) ⟨c, rfl⟩ (by simp) (by simp)).mono ?_
  rintro _ ⟨start, behind, rfl, hP⟩
  exact ⟨behind, hP, by rw [Reading.ofLexemes]⟩

/-- A core is an item in front of a text that it ends before, with the modifier that is read from
this text. -/
theorem Lexes.bare {core : Core} {w : Text} (hw : core.Spells w) (hend : core.EndsBefore t)
    (h : Lexes policy t P) :
    Lexes policy (w ++ t) (fun ls => ∃ behind, P behind ∧ Reading.ofLexemes ls =
      .cons (.bare core (takeModifier behind).1) (Reading.ofLexemes (takeModifier behind).2)) := by
  refine (h.core hw hend).mono ?_
  rintro _ ⟨l, rest, behind, rfl, hl, htake, hP⟩
  exact ⟨behind, hP, ofLexemes_bare hl htake⟩

/-- Text in braces is an item in front of any text, with the modifier that is read from it. -/
theorem Lexes.textGroup {v w : Text} (hw : SpellsText v w) (h : Lexes policy t P) :
    Lexes policy ('\x7b' :: (w ++ '\x7d' :: t)) (fun ls => ∃ behind, P behind ∧
      Reading.ofLexemes ls = .cons (.textGroup v (takeModifier behind).1)
        (Reading.ofLexemes (takeModifier behind).2)) := by
  refine ((h.closing.text hw ?_).written (k := .opening) (v := ['\x7b']) rfl (by simp)
    (by simp)).mono ?_
  · rintro _ ⟨close, behind, rfl, hc, -⟩
    exact takeWhile_isText_cons (.inr hc) behind
  · rintro _ ⟨start, rest, rfl, hv, close, behind, hdrop, hc, hP⟩
    have hbody : takeBody rest = ((v, none), close :: behind) := by
      obtain ⟨kind, start', value⟩ := close
      obtain rfl : kind = .closing := hc
      simp [takeBody, hv, hdrop, takeCore]
    exact ⟨behind, hP, ofLexemes_braces hbody hc⟩

/-- A capture in braces is an item in front of any text, with the modifier that is read from it. -/
theorem Lexes.group {lead trail u v w : Text} {core : Core} (hu : SpellsText lead u)
    (hw : core.Spells w) (hv : SpellsText trail v) (hend : core.EndsBefore (v ++ '\x7d' :: t))
    (h : Lexes policy t P) :
    Lexes policy ('\x7b' :: (u ++ (w ++ (v ++ '\x7d' :: t)))) (fun ls => ∃ behind, P behind ∧
      Reading.ofLexemes ls = .cons (.group lead core trail (takeModifier behind).1)
        (Reading.ofLexemes (takeModifier behind).2)) := by
  refine (((h.closing.text hv ?_).core hw hend |>.text hu ?_).written
    (k := .opening) (v := ['\x7b']) rfl (by simp) (by simp)).mono ?_
  · rintro _ ⟨close, behind, rfl, hc, -⟩
    exact takeWhile_isText_cons (.inr hc) behind
  · rintro _ ⟨l, rest, behind, rfl, hl, -⟩
    exact takeWhile_isText_cons (.inl hl) rest
  · rintro _ ⟨start, rest, rfl, hlead, l, rest', behind, hdrop, -, htake, htrail, close,
      behind', hdrop', hc, hP⟩
    have hbody : takeBody rest = ((lead, some (core, trail)), close :: behind') := by
      simp [takeBody, hlead, hdrop, htake, htrail, hdrop']
    exact ⟨behind', hP, ofLexemes_braces hbody hc⟩

/-- **A text that spells items is read as these items**, wherever it starts. -/
theorem Spells.lexes {items : List Item} (h : Spells items t) :
    Lexes policy t (fun ls => Reading.ofLexemes ls = ⟨items, .complete⟩) := by
  induction h with
  | nil =>
      refine lexes_nil fun start => ?_
      rw [Reading.ofLexemes]
  | plain hc _ ih =>
      refine (ih.plain hc).mono ?_
      rintro ls ⟨behind, hbehind, hls⟩
      rw [hls, hbehind, Reading.cons]
  | escaped c _ ih =>
      refine (ih.escaped c).mono ?_
      rintro ls ⟨behind, hbehind, hls⟩
      rw [hls, hbehind, Reading.cons]
  | @bare core m w items t hw hend hm _ ih =>
      refine ((ih.modifier m hm).bare hw hend).mono ?_
      rintro ls ⟨behind, ⟨rfl, hbehind⟩, hls⟩
      rw [hls, hbehind, Reading.cons]
  | @textGroup v w m items t hw hm _ ih =>
      refine ((ih.modifier m hm).textGroup hw).mono ?_
      rintro ls ⟨behind, ⟨rfl, hbehind⟩, hls⟩
      rw [hls, hbehind, Reading.cons]
  | @group lead trail u v w core m items t hu hw hv hend hm _ ih =>
      refine ((ih.modifier m hm).group hu hw hv hend).mono ?_
      rintro ls ⟨behind, ⟨rfl, hbehind⟩, hls⟩
      rw [hls, hbehind, Reading.cons]

/-- A text stands for the parts that the items it spells stand for. -/
theorem parse_of_spells (o : ReadOptions) {items : List Item} {t : Text} (h : Spells items t) :
    parse o t = partsOf o .complete [] .empty items := by
  obtain ⟨ls, hls, hread⟩ := h.lexes 0
  rw [parse, lex, hls, ok_bind, hread]

end UrlMatch.Pattern
