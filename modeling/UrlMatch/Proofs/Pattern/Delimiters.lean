import UrlMatch.Pattern.Part
import UrlMatch.Pattern.Options
import UrlMatch.Proofs.Regex.Reading
import UrlMatch.Proofs.Text

/-!
# What a segment and a delimiter match

The characters of a class are written with backslashes, so that a class is read as the union of
just these characters whatever they are. From this follows what the regular expressions of a
segment, of a wildcard and of a single delimiter denote.

## Main results

* `denotesAtom_class`: the regular expression of a delimiter matches a delimiter.
* `denotes_segmentRegexp`: the one of a segment matches a text without delimiters.
* `denotes_wildcardRegexp`: the one of a wildcard matches a text within a line.
* `isMatch_anchored_iff`: between the anchors, an expression matches the words that it denotes.
* `isMatch_class_and_segment_iff`: what a class of delimiters and a segment match.
-/

namespace UrlMatch.Pattern

open Regex

variable {b : Bool} {d : Text}

/-! ### Classes in brackets -/

/-- A class and some more characters. -/
def unionOf (c : CharClass) (d : Text) : CharClass := d.foldl (fun c x => .union c (.single x)) c

theorem holds_unionOf {c : CharClass} {n : Nat} :
    (unionOf c d).holds n ↔ c.holds n ∨ ∃ x ∈ d, n = x.toNat := by
  induction d generalizing c with
  | nil => simp [unionOf]
  | cons x d ih =>
      have h : unionOf c (x :: d) = unionOf (.union c (.single x)) d := rfl
      simp [h, ih, CharClass.holds, or_assoc]

theorem standsForItself_of_isClassSpecial {c : Char} (h : isClassSpecial c) :
    standsForItself c := by
  have hall : ['\\', ']', '[', '^', '-', '&', '~'].all standsForItself := by decide
  exact List.all_eq_true.1 hall c (of_decide_eq_true h)

theorem escapeClass_cons (c : Char) (d : Text) :
    escapeClass (c :: d) = (if isClassSpecial c then ['\\', c] else [c]) ++ escapeClass d := by
  simp [escapeClass]

/-- Escaped characters start like no sign of a class. -/
theorem head_escapeClass_ne {c : Char} (hc : isClassSpecial c) (hne : c ≠ '\\') :
    (escapeClass d).head? ≠ some c := by
  cases d with
  | nil => simp [escapeClass]
  | cons x d =>
      rw [escapeClass_cons]
      split
      · simpa using hne.symm
      · rintro h
        obtain rfl : x = c := by simpa using h
        contradiction

/-- An item that no hyphen follows is no range. -/
theorem readRange_item {t rest : Text} {x c : Char} {byte : Bool}
    (hitem : Bracket.readItem (.plain b) t = some (.literal c byte, x :: rest)) (hx : x ≠ '-') :
    Bracket.readRange (.plain b) t = some (.single c, x :: rest) := by
  have hclass : (Escape.literal c byte).class? (.plain b) = some (.single c) := rfl
  simp only [Bracket.readRange, hitem, Option.bind_eq_bind, Option.bind_some, Flags.skip_plain]
  split <;> simp_all

/-- One character of a class is read. -/
theorem step_escapeClass {s : Bracket.State} {c x : Char} {rest : Text} (hx : x ≠ '-') :
    Bracket.step (.plain b) s ((if isClassSpecial c then ['\\', c] else [c]) ++ x :: rest) =
      some (.more (s.add (.single c)) (x :: rest)) := by
  split
  · rename_i hc
    have hitem : Bracket.readItem (.plain b) ('\\' :: c :: x :: rest) =
        some (.literal c false, x :: rest) := by
      simp [Bracket.readItem, Escape.read, standsForItself_of_isClassSpecial hc]
    simp [Bracket.step, readRange_item hitem hx]
  · rename_i hc
    have hitem : Bracket.readItem (.plain b) (c :: x :: rest) =
        some (.literal c false, x :: rest) := by
      unfold Bracket.readItem
      split <;> simp_all [isClassSpecial]
    rw [List.singleton_append]
    unfold Bracket.step
    split <;> simp_all [isClassSpecial, readRange_item hitem hx]

/-- All characters up to the closing bracket are read. -/
theorem run_escapeClass {s : Bracket.State} {rest : Text} :
    Bracket.run (.plain b) s (escapeClass d ++ ']' :: rest) =
      Bracket.run (.plain b) { s with union := unionOf s.union d } (']' :: rest) := by
  induction d generalizing s with
  | nil => rfl
  | cons c d ih =>
      have hhead : ∃ x t, escapeClass d ++ ']' :: rest = x :: t ∧ x ≠ '-' := by
        cases h : escapeClass d with
        | nil => exact ⟨_, _, rfl, by decide⟩
        | cons x t =>
            have hne := head_escapeClass_ne (d := d) (c := '-') (by decide) (by decide)
            exact ⟨x, _, rfl, by simpa [h] using hne⟩
      obtain ⟨x, t, ht, hx⟩ := hhead
      have hnext := ih (s := s.add (.single c))
      rw [ht] at hnext
      have hlt : (x :: t).length <
          ((if isClassSpecial c then ['\\', c] else [c]) ++ x :: t).length := by
        split <;> simp
      rw [escapeClass_cons, List.append_assoc, ht, Bracket.run, Flags.skip_plain,
        step_escapeClass hx]
      simp only [if_pos hlt, hnext]
      rfl

/-- The outermost bracket closes. -/
theorem run_closing {negated : Bool} {c : CharClass} {rest : Text} :
    Bracket.run (.plain b) ⟨[.inside negated .none], c⟩ (']' :: rest) =
      ((Flags.plain b).close? negated c).map (·, rest) := by
  rw [Bracket.run]
  cases h : (Flags.plain b).close? negated c <;>
    simp [Bracket.step, Bracket.close, Bracket.applyPending, h]

/-- A bracket opens in front of a character that has no meaning there. -/
theorem openBracket_sign (negated : Bool) {x : Char} {t : Text} (hx : x ≠ '^') (hx' : x ≠ '-')
    (hx'' : x ≠ ']') :
    Bracket.openBracket (.plain b) ⟨[], .none⟩ ((if negated then ['^'] else []) ++ x :: t) =
      some (⟨[.inside negated .none], .none⟩, x :: t) := by
  have hhyphens (s : Bracket.State) : Bracket.takeHyphens (.plain b) s (x :: t) = (s, x :: t) := by
    unfold Bracket.takeHyphens
    split <;> simp_all
  cases negated <;> simp [Bracket.openBracket, hx, hx'', hhyphens]

/-- **A class of escaped characters has just these characters**, or all others. -/
theorem read_escapeClass (negated : Bool) (rest : Text) (hd : d ≠ []) :
    Bracket.read (.plain b) ((if negated then ['^'] else []) ++ escapeClass d ++ ']' :: rest) =
      ((Flags.plain b).close? negated (unionOf .none d)).map (·, rest) := by
  obtain ⟨x, t, ht⟩ : ∃ x t, escapeClass d = x :: t := by
    cases d with
    | nil => contradiction
    | cons c d =>
        rw [escapeClass_cons]
        split <;> simp
  have hne (c : Char) (hc : isClassSpecial c) (hc' : c ≠ '\\') : x ≠ c := by
    have hhead := head_escapeClass_ne (d := d) hc hc'
    rw [ht] at hhead
    simpa using hhead
  have hopen := openBracket_sign (b := b) negated (t := t ++ ']' :: rest)
    (hne '^' (by decide) (by decide)) (hne '-' (by decide) (by decide))
    (hne ']' (by decide) (by decide))
  rw [Bracket.read, List.append_assoc, ht, List.cons_append, hopen]
  simp only [Option.bind_eq_bind, Option.bind_some]
  rw [← List.cons_append, ← ht, run_escapeClass, run_closing]

/-! ### Delimiters, segments and wildcards -/

/-- A character that is a delimiter, or differs from one in case only where case makes no
difference. -/
def IsDelimiter (b : Bool) (d : Text) (x : Char) : Prop :=
  ((Flags.plain b).fold (unionOf .none d)).holds x.toNat

theorem isDelimiter_false {x : Char} : IsDelimiter false d x ↔ x ∈ d := by
  simp [IsDelimiter, Flags.fold, Flags.plain, Flags.initial, holds_unionOf, CharClass.holds,
    Char.toNat_inj]

/-- What a segment matches: at least one character, and no delimiter. -/
def segmentLanguage (b : Bool) (d : Text) : Language Char :=
  Counted (1 ≤ ·) (oneOf fun x => if d = [] then x ≠ '\n' else ¬ IsDelimiter b d x)

/-- What a wildcard matches: any text within a line. -/
def wildcardLanguage : Language Char := Counted (fun _ => True) (oneOf (· ≠ '\n'))

/-- The class of delimiters. -/
theorem denotesAtom_class (hd : d ≠ []) :
    DenotesAtom b ('[' :: escapeClass d ++ [']']) 0
      fun t _ => .text t (oneOf (IsDelimiter b d)) := by
  refine ⟨_, ReadsAtom.of_step (r := .one ((Flags.plain b).fold (unionOf .none d))) (by decide)
    fun s rest hs => ?_, fun t k => matches_one t _⟩
  have hread := read_escapeClass (b := b) false rest hd
  simp_all [step, Flags.close?]

/-- The class of all characters but delimiters. -/
theorem denotesAtom_complement (hd : d ≠ []) :
    DenotesAtom b ('[' :: '^' :: escapeClass d ++ [']']) 0
      fun t _ => .text t (oneOf fun x => ¬ IsDelimiter b d x) := by
  refine ⟨_, ReadsAtom.of_step (r := .one (.compl ((Flags.plain b).fold (unionOf .none d))))
    (by decide) fun s rest hs => ?_, fun t k => ?_⟩
  · have hread := read_escapeClass (b := b) true rest hd
    have hunicode : (Flags.plain b).unicode = true := rfl
    simp_all [step, Flags.close?, Flags.compl?]
  · rw [matches_one]
    simp [CharClass.holds, IsDelimiter]

/-- **The regular expression of a segment** matches a text without delimiters. -/
theorem denotes_segmentRegexp :
    Denotes b (segmentRegexp d) 0 fun t _ => .text t (segmentLanguage b d) := by
  simp only [segmentLanguage, Way.text_repeated, segmentRegexp]
  by_cases hd : d = []
  · simp only [hd, if_true]
    exact DenotesAtom.dot.lazyPlus
  · simp only [hd, if_false]
    simpa using (denotesAtom_complement hd).lazyPlus

/-- **The regular expression of a wildcard** matches any text within a line. -/
theorem denotes_wildcardRegexp :
    Denotes b wildcardRegexp 0 fun t _ => .text t wildcardLanguage := by
  simp only [wildcardLanguage, Way.text_repeated]
  exact DenotesAtom.dot.star

/-! ### Expressions on their own -/

/-- An expression that denotes the words of a language is accepted, and matches a text exactly if
one of the words stands in it. -/
theorem isMatch_iff_of_denotes {e : Text} {n : Nat} {L : Language Char}
    (h : Denotes false e n fun t _ => .text t L) :
    ∃ r, Regex.parse? e = some r ∧
      ∀ t, (program r).isMatch t ↔ ∃ a w c, t = a ++ w ++ c ∧ w ∈ L := by
  obtain ⟨r, hparse, hr⟩ := h.parse?
  refine ⟨r, hparse, fun t => ?_⟩
  simp only [isMatch_program_iff, hr]
  constructor
  · rintro ⟨i, -, _, _, ⟨w, hw, ⟨c, hc⟩, -⟩, -⟩
    exact ⟨t.take i, w, c, by rw [List.append_assoc, hc, List.take_append_drop], hw⟩
  · rintro ⟨a, w, c, rfl, hw⟩
    have hprefix : w <+: (a ++ w ++ c).drop a.length := by simp
    exact ⟨a.length, by simp, _, [], ⟨w, hw, hprefix, rfl⟩, rfl⟩

/-- **Between the two anchors** it matches exactly the words. -/
theorem isMatch_anchored_iff {e : Text} {n : Nat} {L : Language Char}
    (h : Denotes false e n fun t _ => .text t L) :
    ∃ r, Regex.parse? ('^' :: e ++ ['$']) = some r ∧ ∀ t, (program r).isMatch t ↔ t ∈ L := by
  have hall := (DenotesAtom.startText.denotes.append h).append DenotesAtom.endText.denotes
  obtain ⟨r, hparse, hr⟩ := hall.parse?
  refine ⟨r, hparse, fun t => ?_⟩
  simp only [isMatch_program_iff, hr]
  constructor
  · rintro ⟨i, hi, _, _, k, _, _, ⟨_, _, _, hstart, ⟨⟨w, hw, hprefix, rfl⟩, -⟩, -⟩, hend, -⟩
    obtain ⟨rfl, rfl, -⟩ := (matches_startText hi).1 hstart
    rw [List.drop_zero] at hprefix
    rw [Nat.zero_add] at hend
    obtain ⟨hlength, -⟩ := (matches_endText hprefix.length_le).1 hend
    rwa [← hprefix.eq_of_length hlength]
  · intro ht
    have hstart : Matches t (.look .startText) 0 0 [] :=
      (matches_startText (Nat.zero_le _)).2 ⟨rfl, rfl, rfl⟩
    have hword : Way.text t L 0 t.length [] :=
      ⟨⟨t, ht, List.prefix_refl t, (Nat.zero_add _).symm⟩, rfl⟩
    have hend : Matches t (.look .endText) t.length t.length [] :=
      (matches_endText (Nat.le_refl _)).2 ⟨rfl, rfl, rfl⟩
    exact ⟨0, Nat.zero_le _, t.length, [], t.length, [], [],
      ⟨0, [], [], hstart, hword, rfl⟩, hend, rfl⟩

/-- **A class of delimiters has exactly the delimiters**, whatever characters they are, and a
segment is any text without them but the empty one. -/
theorem isMatch_class_and_segment_iff (hd : d ≠ []) :
    (∃ r, delimiterClass? d = some ('[' :: escapeClass d ++ [']']) ∧
      Regex.parse? ('[' :: escapeClass d ++ [']']) = some r ∧
        ∀ x, (program r).isMatch [x] ↔ x ∈ d) ∧
    ∃ r, Regex.parse? ('^' :: segmentRegexp d ++ ['$']) = some r ∧
      ∀ t, (program r).isMatch t ↔ t ≠ [] ∧ ∀ x ∈ t, x ∉ d := by
  constructor
  · obtain ⟨r, hparse, hr⟩ := isMatch_iff_of_denotes (denotesAtom_class hd).denotes
    refine ⟨r, if_neg hd, hparse, fun x => (hr [x]).trans ⟨?_, fun hx => ?_⟩⟩
    · rintro ⟨a, _, c, hsplit, y, hy, rfl⟩
      have hmem : y ∈ [x] := hsplit ▸ by simp
      rw [← List.mem_singleton.1 hmem]
      exact isDelimiter_false.1 hy
    · exact ⟨[], [x], [], rfl, x, isDelimiter_false.2 hx, rfl⟩
  · obtain ⟨r, hparse, hr⟩ := isMatch_anchored_iff (denotes_segmentRegexp (d := d))
    refine ⟨r, hparse, fun t => (hr t).trans ?_⟩
    rw [segmentLanguage, mem_counted_oneOf, Nat.one_le_iff_ne_zero, ne_eq, List.length_eq_zero_iff]
    simp [hd, isDelimiter_false]

/-- Delimiters that would be a range, an intersection, a difference and a negation of classes if
they were not escaped: the class has the hyphen and not what lies between the ends of the range. -/
theorem isMatch_class_and_segment_iff_of_signs :
    let d := "^a-z&&[b]--~~\\".toList
    d ≠ [] ∧ (∃ r, Regex.parse? ('[' :: escapeClass d ++ [']']) = some r ∧
      (program r).isMatch ['-'] ∧ ¬ (program r).isMatch ['m']) ∧
    ∃ r, Regex.parse? ('^' :: segmentRegexp d ++ ['$']) = some r ∧
      (program r).isMatch ['m', '\n'] ∧ ¬ (program r).isMatch ['m', ']'] := by
  intro d
  have hd : d ≠ [] := by decide
  obtain ⟨⟨r, -, hclass, hr⟩, s, hsegment, hs⟩ := isMatch_class_and_segment_iff hd
  refine ⟨hd, ⟨r, hclass, (hr _).2 (by decide), mt (hr _).1 (by decide)⟩, s, hsegment, ?_, ?_⟩
  · exact (hs _).2 ⟨by decide, Text.forall_mem_of_all (by decide)⟩
  · exact fun hmatch => ((hs _).1 hmatch).2 ']' (by decide) (by decide)

end UrlMatch.Pattern
