import UrlMatch.Proofs.Pattern.Ways

/-!
# The language of a pattern

A pattern without regular expressions of its own can always be compiled, and the texts that it
matches can be said without any regular expression: each part comes a number of times that its
modifier allows, fixed text as itself, and a capture as a text of its kind between its two fixed
texts, chosen anew each time.

## Main results

* `passes_parts`: the ways of parts pass the words of their languages.
* `compile_of_closing`, `compile_of_noCustom`: parts without regular expressions of their own
  compile.
* `isMatch_compile_iff`: **what a compiled pattern matches**.
-/

namespace UrlMatch.Pattern

open Regex

variable {d : Text}

/-! ### Languages of parts -/

/-- The texts that a capture of a kind stands for, each time that it comes. -/
def CaptureKind.StandsFor (d : Text) : CaptureKind → Text → Prop
  | segment, x => x ≠ [] ∧ ∀ c ∈ x, if d = [] then c ≠ '\n' else c ∉ d
  | wildcard, x => '\n' ∉ x
  | custom _, _ => False

namespace Part

/-- The texts that a part stands for each time that it comes. -/
def unit (d : Text) : Part → Language Char
  | fixed value _ => {value}
  | capture c => Set.ofPred fun w => ∃ x, c.kind.StandsFor d x ∧ w = c.lead ++ x ++ c.trail

/-- What a part matches: its units, as often as its modifier allows. -/
def language (d : Text) (p : Part) : Language Char := Counted p.modifier.Allows (p.unit d)

end Part

/-- What parts match, one after the other. -/
def languageOf (d : Text) (parts : List Part) : Language Char := (parts.map (·.language d)).prod

/-! ### The ways of parts pass their languages -/

theorem mem_kind_language {kind : CaptureKind} {x : Text} :
    x ∈ kind.language false d ↔ kind.StandsFor d x := by
  cases kind with
  | segment =>
      rw [CaptureKind.language, segmentLanguage, mem_counted_oneOf, CaptureKind.StandsFor,
        Nat.one_le_iff_ne_zero, Ne, List.length_eq_zero_iff]
      simp only [isDelimiter_false]
  | wildcard =>
      rw [CaptureKind.language, wildcardLanguage, mem_counted_oneOf, CaptureKind.StandsFor]
      grind
  | custom r => exact iff_of_false (Language.notMem_zero x) id

theorem unit_capture (c : Capture) :
    (Part.capture c).unit d = {c.lead} * c.kind.language false d * {c.trail} := by
  ext w
  simp only [Language.mem_mul, mem_kind_language]
  constructor
  · rintro ⟨x, hx, rfl⟩
    exact ⟨_, ⟨c.lead, rfl, x, hx, rfl⟩, c.trail, rfl, rfl⟩
  · rintro ⟨_, ⟨_, rfl, x, hx, rfl⟩, _, rfl, rfl⟩
    exact ⟨x, hx, rfl⟩

theorem counted_eq_one (L : Language Char) : Counted (· = 1) L = L := by
  ext w
  simp [mem_counted]

/-- A fixed text that comes once is matched by itself. -/
theorem Part.language_once (d v : Text) : (Part.fixed v .once).language d = {v} := by
  rw [Part.language, Part.unit, Part.modifier, Modifier.allows_once, counted_eq_one]

/-- A repetition between two languages. -/
theorem mem_mul_counted_mul {permits : Nat → Prop} {K L M : Language Char} {w : Text} :
    w ∈ K * Counted permits L * M ↔ ∃ n, permits n ∧ w ∈ K * L ^ n * M := by
  simp only [Language.mem_mul, mem_counted]
  constructor
  · rintro ⟨_, ⟨k, hk, l, ⟨n, hn, hl⟩, rfl⟩, m, hm, rfl⟩
    exact ⟨n, hn, _, ⟨k, hk, l, hl, rfl⟩, m, hm, rfl⟩
  · rintro ⟨n, hn, _, ⟨k, hk, l, hl, rfl⟩, m, hm, rfl⟩
    exact ⟨_, ⟨k, hk, l, ⟨n, hn, hl⟩, rfl⟩, m, hm, rfl⟩

/-- Copies with fixed text between them, and once around all of them, are copies with fixed text
around each. -/
theorem mul_counted_mul_eq (K L M : Language Char) :
    K * (L * Counted (fun _ => True) (M * K * L)) * M = Counted (1 ≤ ·) (K * L * M) := by
  ext w
  have h (n : Nat) : K * L * (M * K * L) ^ n * M = (K * L * M) ^ (n + 1) := by
    rw [mul_assoc M, ← mul_pow_mul, mul_assoc, pow_succ]
  rw [← mul_assoc, mem_mul_counted_mul, mem_counted]
  constructor
  · rintro ⟨n, -, hw⟩
    exact ⟨n + 1, Nat.le_add_left 1 n, h n ▸ hw⟩
  · rintro ⟨n, hn, hw⟩
    obtain ⟨n, rfl⟩ := Nat.exists_eq_add_of_le' hn
    exact ⟨n, trivial, (h n).symm ▸ hw⟩

/-- At least once, or not at all, is any number of times. -/
theorem counted_le_one_counted (L : Language Char) :
    Counted (· ≤ 1) (Counted (1 ≤ ·) L) = Counted (fun _ => True) L := by
  ext w
  constructor
  · rintro ⟨n, hn, hw⟩
    rcases Nat.le_one_iff_eq_zero_or_eq_one.1 hn with rfl | rfl
    · exact ⟨0, trivial, hw⟩
    · rw [pow_one] at hw
      obtain ⟨m, -, hw⟩ := hw
      exact ⟨m, trivial, hw⟩
  · rintro ⟨n, -, hw⟩
    cases n with
    | zero => exact ⟨0, Nat.zero_le 1, hw⟩
    | succ n =>
        refine ⟨1, Nat.le_refl 1, ?_⟩
        rw [pow_one]
        exact ⟨n + 1, Nat.le_add_left 1 n, hw⟩

/-- The way of a capture passes what its units and its modifier say. -/
theorem passes_capture (c : Capture) (t : Text) (k : Nat) :
    Way.Passes t (c.way false d t k) ((Part.capture c).language d) := by
  have hnil : ({[]} : Language Char) = 1 := rfl
  have hpresent : Way.Passes t (c.present false d t k)
      ({c.lead} * c.values false d * {c.trail}) := by
    have hvalues := (Way.Passes.text (t := t) (L := c.values false d)).group (k + 1)
    have h := (Way.Passes.text (t := t) (L := variantsOf false c.lead)).andThen
      (hvalues.andThen (.text (L := variantsOf false c.trail)))
    simpa only [Capture.present, variantsOf_false, ← mul_assoc] using h
  have hmissing := hpresent.repeated (· ≤ 1)
  rw [Part.language, Part.modifier, unit_capture, Capture.way]
  simp only [Capture.values, variantsOf_false] at hpresent hmissing
  cases hm : c.modifier with
  | once =>
      simp only [hm, Modifier.isRepeating] at hpresent
      simpa [Capture.MayMiss, hm, counted_eq_one] using hpresent
  | optional =>
      simp only [hm, Modifier.isRepeating] at hmissing
      simpa [Capture.MayMiss, hm] using hmissing
  | zeroOrMore =>
      by_cases hfixed : c.lead = [] ∧ c.trail = []
      · simp only [hm, Modifier.isRepeating, hfixed] at hpresent
        simpa [Capture.MayMiss, hm, hfixed, hnil] using hpresent
      · simp only [hm, Modifier.isRepeating, hfixed] at hmissing
        simpa [Capture.MayMiss, hm, hfixed, mul_counted_mul_eq, counted_le_one_counted]
          using hmissing
  | oneOrMore =>
      by_cases hfixed : c.lead = [] ∧ c.trail = []
      · simp only [hm, Modifier.isRepeating, hfixed] at hpresent
        simpa [Capture.MayMiss, hm, hfixed, hnil] using hpresent
      · simp only [hm, Modifier.isRepeating, hfixed] at hpresent
        simpa [Capture.MayMiss, hm, hfixed, mul_counted_mul_eq] using hpresent

theorem passes_part (p : Part) (t : Text) (k : Nat) :
    Way.Passes t (p.way false d t k) (p.language d) := by
  cases p with
  | fixed value m =>
      have h := (Way.Passes.text (t := t) (L := variantsOf false value)).repeated m.Allows
      simpa only [Part.way, Part.language, Part.unit, Part.modifier, variantsOf_false] using h
  | capture c => exact passes_capture c t k

/-- **The ways of parts pass the words of their languages**, one after the other. -/
theorem passes_parts (parts : List Part) (t : Text) (k : Nat) :
    Way.Passes t (waysOf false d parts t k) (languageOf d parts) := by
  induction parts generalizing k with
  | nil => exact .stay
  | cons p parts ih => exact (passes_part p t k).andThen (ih _)

/-! ### The whole expression -/

namespace MatchOptions

variable {o : MatchOptions}

/-- The way in front of the parts. -/
def startWay (o : MatchOptions) (t : Text) : Way :=
  if o.fromStart then Matches t (.look .startText) else .stay

/-- The way behind the parts, where the match has to reach the end of the input. -/
def endWay (o : MatchOptions) (t : Text) : Way :=
  if o.strict ∨ o.delimiters = [] then Matches t (.look .endText)
  else (Way.text t (Counted (· ≤ 1) (oneOf (IsDelimiter false o.delimiters)))).andThen
    (Matches t (.look .endText))

theorem startWay_iff {t : Text} {i j : Nat} {u : Slots} (hi : i ≤ t.length) :
    o.startWay t i j u ↔ j = i ∧ u = [] ∧ (o.fromStart → i = 0) := by
  rw [startWay]
  split
  · rw [matches_startText hi]
    grind
  · simp_all [Way.stay]

/-- What may stand behind the parts. -/
def Tolerates (o : MatchOptions) (t : Text) : Prop :=
  t = [] ∨ (o.strict = false ∧ ∃ x ∈ o.delimiters, t = [x])

/-- Behind the parts the input ends, up to what is tolerated. -/
theorem endWay_iff {t : Text} {i j : Nat} {u : Slots} (hi : i ≤ t.length) :
    o.endWay t i j u ↔ j = t.length ∧ u = [] ∧ o.Tolerates (t.drop i) := by
  rw [endWay]
  split
  · rename_i h
    rw [matches_endText hi, Tolerates, List.drop_eq_nil_iff]
    grind
  · rename_i h
    rw [not_or, Bool.not_eq_true] at h
    constructor
    · rintro ⟨_, _, w, ⟨⟨v, hv, hprefix, rfl⟩, rfl⟩, hend, rfl⟩
      have hle := hprefix.length_le
      rw [List.length_drop] at hle
      obtain ⟨hk, rfl, rfl⟩ := (matches_endText (by omega)).1 hend
      obtain rfl := hprefix.eq_of_length (by rw [List.length_drop]; omega)
      refine ⟨rfl, rfl, ?_⟩
      rw [mem_counted_oneOf] at hv
      simp only [isDelimiter_false] at hv
      cases hdrop : t.drop i with
      | nil => exact .inl rfl
      | cons x rest =>
          rw [hdrop] at hv
          obtain rfl : rest = [] := by simpa using hv.1
          exact .inr ⟨h.1, x, hv.2 x List.mem_cons_self, rfl⟩
    · rintro ⟨rfl, rfl, htolerates⟩
      refine ⟨t.length, [], [], ⟨⟨t.drop i, ?_, List.prefix_refl _, ?_⟩, rfl⟩,
        (matches_endText (Nat.le_refl _)).2 ⟨rfl, rfl, rfl⟩, rfl⟩
      · rw [mem_counted_oneOf]
        simp only [isDelimiter_false]
        rcases htolerates with hnil | ⟨-, x, hx, hdrop⟩
        · simp [hnil]
        · simp [hdrop, hx]
      · rw [List.length_drop]
        omega

theorem denotes_anchor (b : Bool) :
    Denotes b (if o.fromStart then ['^'] else []) 0 fun t _ => o.startWay t := by
  unfold startWay
  cases o.fromStart with
  | true => exact DenotesAtom.startText.denotes
  | false => exact Denotes.nil

/-- What stands behind the parts, where case makes no difference for delimiters. -/
theorem denotes_closing {b : Bool}
    (hb : IsDelimiter b o.delimiters = IsDelimiter false o.delimiters) (he : o.toEnd)
    (parts : List Part) : Denotes b (o.closing parts) 0 fun t _ => o.endWay t := by
  have hend := DenotesAtom.endText (b := b).denotes
  unfold closing endWay delimiterClass?
  by_cases hd : o.delimiters = []
  · simpa [he, hd] using hend
  · cases o.strict with
    | true => simpa [he, hd] using hend
    | false =>
        have h := (denotesAtom_class (b := b) hd).optional.append hend
        simp only [he, hd, Way.text_repeated, ← hb]
        simpa using h

end MatchOptions

/-- The sign that makes case indifferent stands in front of what it applies to. -/
theorem parse?_of_denotes {sensitive : Bool} {e : Text} {n : Nat} {W : Text → Nat → Way}
    (h : Denotes (!sensitive) e n W) :
    ∃ r, Regex.parse? ((if sensitive then [] else ['(', '?', 'i', ')']) ++ e) = some r ∧
      ∀ t, Matches t r = W t 0 := by
  cases sensitive with
  | true => exact h.parse?
  | false =>
      obtain ⟨items, hread, hW⟩ := h
      have hstep : step .initial ('(' :: '?' :: 'i' :: ')' :: e) =
          some ({ Reader.initial with flags := .plain true, items := [none] }, e) := by
        simp [step, readGroup, readFlags, Reader.initial, Flags.skip, Flags.initial, Flags.update?,
          Flags.plain]
      have hfirst := Reader.reaches_of_step (b := false) rfl hstep (by simp; omega)
      have hnil : ([] : Text).head? ≠ some '?' := by simp
      have hbehind := hread.reaches
        (s := { Reader.initial with flags := .plain true, items := [none] }) rfl hnil
      rw [List.append_nil] at hbehind
      have hparse := Reader.parse?_of_reaches (hfirst.trans hbehind) rfl rfl
      refine ⟨_, hparse, fun t => ?_⟩
      rw [← hW t 0]
      simp [Reader.current, Reader.add, Reader.initial, choice, List.filterMap_append,
        List.filterMap_map]

/-- **Parts without regular expressions of their own compile**, and the expression goes their ways,
whatever ways what stands behind them goes. -/
theorem compile_of_closing {o : MatchOptions} {parts : List Part} {n : Nat} {W : Text → Nat → Way}
    (hparts : NoCustom parts) (hclosing : Denotes (!o.sensitive) (o.closing parts) n W) :
    ∃ r, compile o parts = .ok ⟨source o parts, Regex.program r, keysOf parts⟩ ∧
      ∀ t, Matches t r = ((o.startWay t).andThen
        (waysOf (!o.sensitive) o.delimiters parts t 0)).andThen (W t (keysOf parts).length) := by
  have hall := ((o.denotes_anchor (!o.sensitive)).append
    (denotes_parts (d := o.delimiters) hparts)).append hclosing
  obtain ⟨r, hparse, hr⟩ := parse?_of_denotes hall
  simp only [Nat.zero_add] at hr
  refine ⟨r, ?_, hr⟩
  rw [← List.append_assoc, ← List.append_assoc] at hparse
  simp only [compile, source, MatchOptions.opening, hparse]

/-- Where case makes no difference it makes none for delimiters in the first place. -/
theorem compile_of_caseless {o : MatchOptions} {parts : List Part} (he : o.toEnd)
    (hd : IsDelimiter (!o.sensitive) o.delimiters = IsDelimiter false o.delimiters)
    (hparts : NoCustom parts) :
    ∃ r, compile o parts = .ok ⟨source o parts, Regex.program r, keysOf parts⟩ ∧
      ∀ t, Matches t r = ((o.startWay t).andThen
        (waysOf (!o.sensitive) o.delimiters parts t 0)).andThen (o.endWay t) :=
  compile_of_closing hparts (MatchOptions.denotes_closing hd he parts)

/-- The same where case makes a difference, whatever the delimiters are. -/
theorem compile_of_noCustom {o : MatchOptions} {parts : List Part} (hs : o.sensitive)
    (he : o.toEnd) (hparts : NoCustom parts) :
    ∃ r, compile o parts = .ok ⟨source o parts, Regex.program r, keysOf parts⟩ ∧
      ∀ t, Matches t r =
        ((o.startWay t).andThen (waysOf false o.delimiters parts t 0)).andThen (o.endWay t) := by
  have hcompiled := compile_of_caseless (o := o) he (by rw [hs]; rfl) hparts
  rwa [hs] at hcompiled

/-- An expression that goes the ways of parts matches a text exactly if a word of their language
stands in it and what is behind the word can be passed. -/
theorem isMatch_iff_of_passed {o : MatchOptions} {parts : List Part} {r : Regex} {h : Text}
    {E : Way} {P : Text → Prop}
    (hr : Matches h r =
      ((o.startWay h).andThen (waysOf false o.delimiters parts h 0)).andThen E)
    (hE : ∀ i ≤ h.length, (∃ j u, E i j u) ↔ P (h.drop i)) :
    (Regex.program r).isMatch h ↔ ∃ a m t, h = a ++ m ++ t ∧
      m ∈ languageOf o.delimiters parts ∧ (o.fromStart → a = []) ∧ P t := by
  have hpasses := passes_parts (d := o.delimiters) parts h 0
  simp only [isMatch_program_iff, hr]
  constructor
  · rintro ⟨_, hi, j, _, k, _, w, ⟨i, _, v, hstart, hway, rfl⟩, hend, rfl⟩
    obtain ⟨rfl, rfl, hfrom⟩ := (MatchOptions.startWay_iff hi).1 hstart
    obtain ⟨m, hm, ⟨rest, hrest⟩, rfl⟩ := (hpasses _ _).1 ⟨v, hway⟩
    have hlength : m.length + rest.length = h.length - i := by
      rw [← List.length_append, hrest, List.length_drop]
    have hpassed := (hE _ (by omega)).1 ⟨_, _, hend⟩
    rw [← List.drop_drop, ← hrest, List.drop_left] at hpassed
    refine ⟨h.take i, m, rest, ?_, hm, fun hf => by simp [hfrom hf], hpassed⟩
    rw [List.append_assoc, hrest, List.take_append_drop]
  · rintro ⟨a, m, t, rfl, hm, hfrom, ht⟩
    have hprefix : m <+: (a ++ m ++ t).drop a.length := by simp
    obtain ⟨v, hway⟩ := (hpasses a.length (a.length + m.length)).2 ⟨m, hm, hprefix, rfl⟩
    have hbehind : (a ++ m ++ t).drop (a.length + m.length) = t := by
      rw [← List.length_append, List.drop_left]
    obtain ⟨j, w, hend⟩ := (hE (a.length + m.length) (by simp)).2 (hbehind.symm ▸ ht)
    refine ⟨a.length, by simp, j, _, a.length + m.length, _, w,
      ⟨a.length, [], v, ?_, hway, rfl⟩, hend, rfl⟩
    exact (MatchOptions.startWay_iff (by simp)).2 ⟨rfl, rfl, fun hf => by simp [hfrom hf]⟩

/-- The same where the match has to reach the end of the text, up to what is tolerated there. -/
theorem isMatch_iff_of_ways {o : MatchOptions} {parts : List Part} {r : Regex} {h : Text}
    (hr : Matches h r =
      ((o.startWay h).andThen (waysOf false o.delimiters parts h 0)).andThen (o.endWay h)) :
    (Regex.program r).isMatch h ↔ ∃ a m t, h = a ++ m ++ t ∧
      m ∈ languageOf o.delimiters parts ∧ (o.fromStart → a = []) ∧ o.Tolerates t :=
  isMatch_iff_of_passed hr fun i hi => by simp [MatchOptions.endWay_iff hi]

/-- **What a compiled pattern matches.** Parts without regular expressions of their own compile,
and the pattern matches a text exactly if the text is a word of their language, with any text in
front of it unless the match has to begin where the text begins, and with at most a delimiter
behind it. -/
theorem isMatch_compile_iff {o : MatchOptions} {parts : List Part} (hs : o.sensitive)
    (he : o.toEnd) (hparts : NoCustom parts) :
    ∃ c, compile o parts = .ok c ∧ ∀ h : Text, c.isMatch h ↔ ∃ a m t, h = a ++ m ++ t ∧
      m ∈ languageOf o.delimiters parts ∧ (o.fromStart → a = []) ∧ o.Tolerates t := by
  obtain ⟨r, hcompile, hr⟩ := compile_of_noCustom hs he hparts
  exact ⟨_, hcompile, fun h => isMatch_iff_of_ways (hr h)⟩

/-- A repeated segment takes its slash along each time: `/u/:id*` matches `/u/a/b`. -/
theorem isMatch_compile_repeated_segment :
    let parts := [.fixed ['/', 'u'] .once,
      .capture ⟨.named ['i', 'd'], ['/'], [], .segment, .zeroOrMore⟩]
    MatchOptions.default.sensitive ∧ MatchOptions.default.toEnd ∧ NoCustom parts ∧
      ∃ c, compile .default parts = .ok c ∧ c.isMatch ['/', 'u', '/', 'a', '/', 'b'] := by
  intro parts
  have hparts : NoCustom parts := by simp [NoCustom, parts, Part.capture?, CaptureKind.isCustom]
  obtain ⟨c, hcompile, hc⟩ := isMatch_compile_iff (o := .default) rfl rfl hparts
  refine ⟨rfl, rfl, hparts, c, hcompile, (hc _).2 ⟨[], _, [], (List.append_nil _).symm, ?_, ?_⟩⟩
  · have hunit (x : Char) (hx : x ∉ defaultDelimiters) : ['/', x] ∈ (Part.capture
        ⟨.named ['i', 'd'], ['/'], [], .segment, .zeroOrMore⟩).unit defaultDelimiters :=
      ⟨[x], by simpa [CaptureKind.StandsFor, defaultDelimiters] using hx, rfl⟩
    have htwice := Language.append_mem_mul (hunit 'a' (by decide)) (hunit 'b' (by decide))
    have hfixed : ['/', 'u'] ∈ (Part.fixed ['/', 'u'] .once).language defaultDelimiters :=
      ⟨1, by simp [Part.modifier], by rw [pow_one]; rfl⟩
    have hrepeated : ['/', 'a', '/', 'b'] ∈ (Part.capture
        ⟨.named ['i', 'd'], ['/'], [], .segment, .zeroOrMore⟩).language defaultDelimiters :=
      ⟨2, by simp [Part.modifier], by rwa [pow_two]⟩
    have hall := Language.append_mem_mul hfixed (Language.append_mem_mul hrepeated
      (Language.nil_mem_one (α := Char)))
    exact hall
  · exact ⟨fun _ => rfl, .inl rfl⟩

end UrlMatch.Pattern
