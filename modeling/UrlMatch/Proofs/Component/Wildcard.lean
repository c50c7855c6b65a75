import UrlMatch.Proofs.Component.Compile
import UrlMatch.Proofs.Pattern.Rebuild
import UrlMatch.Proofs.Regex.Preference

/-!
# Components that are not given

A component that is not given is described by an asterisk. Its expression is greedy, so it takes all
of a text that is one line, even where a delimiter behind the end would be tolerated.

## Main results

* `parse?_asterisk`: the expression of an asterisk.
* `ComponentPattern.ofText_wildcard`: an asterisk is a pattern of every component.
* `ComponentPattern.groups?_ofText_wildcard`: **an asterisk reports the whole text**.
-/

namespace UrlMatch

open Pattern Regex

/-- The only part of a pattern that is an asterisk. -/
def asteriskPart : Part := .capture ⟨.ordinal 0, [], [], .wildcard, .once⟩

/-- Behind the asterisk the text ends, up to a delimiter that may be tolerated. -/
def asteriskEnd (o : MatchOptions) : Regex :=
  let finish := Regex.seq (.look .endText) .empty
  if o.strict then finish
  else .seq (.repeated (.one ((Flags.plain !o.sensitive).fold (unionOf .none o.delimiters))) 0
    (some 1) true) finish

/-- The expression of an asterisk. -/
def asteriskRegex (o : MatchOptions) : Regex :=
  .seq (.look .startText) (.seq (.group 1
    (.seq (.repeated (.one (.compl (.single '\n'))) 0 none true) .empty)) (asteriskEnd o))

/-- **The expression of an asterisk** is read from its text. -/
theorem parse?_asterisk (c : Component) (ignoreCase : Bool) :
    Regex.parse? (source (c.matchOptions ignoreCase) [asteriskPart]) =
      some (asteriskRegex (c.matchOptions ignoreCase)) := by
  have hall : Component.all.all fun c => [false, true].all fun ignoreCase =>
      decide (Regex.parse? (source (c.matchOptions ignoreCase) [asteriskPart]) =
        some (asteriskRegex (c.matchOptions ignoreCase))) := by
    decide +kernel
  have hone := List.all_eq_true.1 hall c c.mem_all
  exact of_decide_eq_true (List.all_eq_true.1 hone ignoreCase (by cases ignoreCase <;> decide))

/-- What is behind the asterisk takes nothing. -/
theorem prefers_asteriskEnd (o : MatchOptions) (t : Text) :
    Prefers t (asteriskEnd o) t.length t.length [] := by
  have hfinish : Prefers t (.seq (.look .endText) .empty) t.length t.length [] :=
    .seq (.look (by simp [Look.HoldsAt, Look.holds])) .empty
  rw [asteriskEnd]
  split
  · exact hfinish
  · exact .seq .optional hfinish

/-- **An asterisk takes all of a line.** -/
theorem prefers_asterisk (o : MatchOptions) {t : Text} (ht : '\n' ∉ t) :
    Prefers t (asteriskRegex o) 0 t.length [(3, t.length), (2, 0)] := by
  have hline : ∀ x ∈ t.drop 0, (CharClass.compl (.single '\n')).holds x.toNat := by
    intro x hx
    have hne : x.toNat ≠ '\n'.toNat := fun h => ht (Char.toNat_inj.1 h ▸ hx)
    simpa [CharClass.holds] using hne
  have hstar := Prefers.seq (Prefers.star hline (Nat.zero_le _)) .empty
  have hstart : Look.startText.HoldsAt t 0 := by simp [Look.HoldsAt, Look.holds]
  exact .seq (.look hstart) (.seq (hstar.group 1) (prefers_asteriskEnd o t))

namespace ComponentPattern

variable {c : Component} {special ignoreCase : Bool} {p : ComponentPattern} {t : Text}

/-- The wildcard is a pattern of every component, and matches the empty text. -/
theorem ofText_wildcard (c : Component) (special ignoreCase : Bool) :
    ∃ p, ofText c special ignoreCase ['*'] = .ok p ∧ p.compiled.isMatch [] ∧
      p.matchesSpecialScheme := by
  have hall : Component.all.all fun c => [false, true].all fun special =>
      [false, true].all fun ignoreCase =>
        (ofText c special ignoreCase ['*']).toOption.any fun p =>
          p.compiled.isMatch [] && p.matchesSpecialScheme := by
    decide +kernel
  have hone := List.all_eq_true.1 hall c c.mem_all
  have htwo := List.all_eq_true.1 hone special (by cases special <;> decide)
  have hthree := List.all_eq_true.1 htwo ignoreCase (by cases ignoreCase <;> decide)
  obtain ⟨p, hp, hmatch⟩ := (Option.any_eq_true _ _).1 hthree
  exact ⟨p, toOption_eq_some.1 hp, by simpa using hmatch⟩

/-- **An asterisk reports the whole text**, if it is one line. -/
theorem groups?_ofText_wildcard (h : ofText c special ignoreCase ['*'] = .ok p) (ht : '\n' ∉ t) :
    p.compiled.groups? t = some [(['0'], some t)] := by
  obtain ⟨ps, compiled, hps, hcompiled, rfl⟩ := compile_eq_ok_iff.1 h
  have hparse := (parts_eq_ok_iff.1 hps).1
  rw [parse_asterisk] at hparse
  obtain rfl := Except.ok.inj hparse
  have hregex : Regex.parse? (source (c.matchOptions ignoreCase)
      [.capture ⟨.ordinal 0, [], [], .wildcard, .once⟩]) =
        some (asteriskRegex (c.matchOptions ignoreCase)) := parse?_asterisk c ignoreCase
  simp only [Pattern.compile, hregex] at hcompiled
  obtain rfl := Except.ok.inj hcompiled
  have hfind := Program.find?_of_prefers (prefers_asterisk (c.matchOptions ignoreCase) ht)
  have hname : CaptureName.display (.ordinal 0) = ['0'] := by decide +kernel
  have hspan : Found.span? ⟨[(1, t.length), (3, t.length), (2, 0), (0, 0)]⟩ 1 =
      some (0, t.length) := rfl
  have htext : Found.text? ⟨[(1, t.length), (3, t.length), (2, 0), (0, 0)]⟩ t 1 = some t := by
    simp [Found.text?, hspan]
  simp only [Compiled.groups?, hfind, Option.map_some, List.cons_append, List.nil_append]
  simp [keysOf, Part.capture?, Capture.key, hname, htext]

/-- An asterisk matches everything within a line. -/
theorem isMatch_ofText_wildcard (h : ofText c special ignoreCase ['*'] = .ok p) (ht : '\n' ∉ t) :
    p.compiled.isMatch t :=
  exists_groups?_iff.1 ⟨_, groups?_ofText_wildcard h ht⟩

end ComponentPattern

end UrlMatch
