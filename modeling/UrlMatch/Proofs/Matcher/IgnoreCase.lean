import UrlMatch.Proofs.Component.Canonical
import UrlMatch.Proofs.Matcher.Exec
import UrlMatch.Proofs.Pattern.IgnoreCase

/-!
# URL patterns that ignore case

Case can be ignored behind the host only: in the path, the query and the fragment. The patterns of
the other components are compiled alike, whether case makes a difference or not. So a URL pattern
that ignores case reads its path as the other one does, and differs in these three components, of
which each matches at least what it matches where case makes a difference.

## Main results

* `ComponentPattern.exists_ofText_ignoring_case`: the pattern of a component that ignores case.
* `Matcher.exists_ofFields_ignoring_case`: **a URL pattern that ignores case matches more**.
-/

namespace UrlMatch

open Pattern

/-! ### The pattern of a component -/

namespace Component

variable {c : Component}

/-- In front of the path case always makes a difference. -/
theorem matchOptions_of_not_mayIgnoreCase (hc : c.mayIgnoreCase = false) (ignoreCase : Bool) :
    c.matchOptions ignoreCase = c.matchOptions false := by
  simp [matchOptions, hc]

theorem delimiters_matchOptions (hc : c.mayIgnoreCase) (ignoreCase : Bool) :
    (c.matchOptions ignoreCase).delimiters = defaultDelimiters := by
  cases c <;> first | rfl | cases hc

end Component

namespace ComponentPattern

variable {c : Component} {special : Bool} {t : Text} {p : ComponentPattern} {parts : List Part}

theorem noCustom_of_hasRegexpGroup (h : hasRegexpGroup parts = false) : NoCustom parts := by
  intro part hpart capture hcapture
  have hnone := List.any_eq_false.1 h part hpart
  cases part with
  | fixed value m => cases hcapture
  | capture c =>
      obtain rfl := Option.some.inj hcapture
      exact hnone

/-- **A pattern that ignores case matches at least as much**, if it has no regular expressions of
its own, and it is the same where case cannot be ignored. -/
theorem exists_ofText_ignoring_case (h : ofText c special false t = .ok p)
    (hregexp : p.hasRegexp = false) :
    ∃ q, ofText c special true t = .ok q ∧ (c.mayIgnoreCase = false → q = p) ∧
      ∀ v, p.compiled.isMatch v → q.compiled.isMatch v := by
  cases hc : c.mayIgnoreCase with
  | false =>
      rw [ofText, ← Component.matchOptions_of_not_mayIgnoreCase hc true] at h
      exact ⟨p, h, fun _ => rfl, fun _ => id⟩
  | true =>
      obtain ⟨ps, compiled, hps, hcompiled, rfl⟩ := compile_eq_ok_iff.1 h
      have hcaseless : ∀ ch ∈ (c.matchOptions false).delimiters, IsCaseless ch := by
        rw [Component.delimiters_matchOptions hc]
        exact fun ch => isCaseless_of_mem_defaultDelimiters
      obtain ⟨sensitive, ignoring, hsensitive, hignoring, hmono⟩ := exists_compile_ignoring_case
        (c.toEnd_matchOptions false) hcaseless (noCustom_of_hasRegexpGroup hregexp)
      have hfalse : { c.matchOptions false with sensitive := true } = c.matchOptions false := by
        simp [Component.matchOptions]
      have htrue : { c.matchOptions false with sensitive := false } = c.matchOptions true := by
        simp [Component.matchOptions, hc]
      rw [hfalse] at hsensitive
      rw [htrue] at hignoring
      obtain rfl : sensitive = compiled := Except.ok.inj (hsensitive.symm.trans hcompiled)
      refine ⟨_, compile_eq_ok_iff.2 ⟨ps, ignoring, hps, hignoring, rfl⟩, fun hkept => ?_, hmono⟩
      cases hkept

end ComponentPattern

/-! ### URL patterns -/

namespace Matcher

variable {f : Fields} {p : Matcher}

/-- **A URL pattern that ignores case matches more.** Fields without regular expressions of their
own that describe a URL pattern where case makes a difference describe one that ignores it. This
one matches each input that the other matches, and in front of the path just the same values. -/
theorem exists_ofFields_ignoring_case (hp : ofFields f false = .ok p)
    (hregexp : p.hasRegexp = false) :
    ∃ q, ofFields f true = .ok q ∧
      (∀ input base, p.test input base → q.test input base) ∧
      ∀ c ∈ [Component.protocol, .username, .password, .hostname, .port], ∀ v,
        (q.components.get c).compiled.isMatch v = (p.components.get c).compiled.isMatch v := by
  obtain ⟨patterns, hpatterns, hp⟩ := bind_eq_ok.1 hp
  obtain ⟨-, hp⟩ := compile_eq_ok_iff.1 hp
  have hnone (c : Component) : (p.components.get c).hasRegexp = false := by
    simpa using List.any_eq_false.1 hregexp c c.mem_all
  choose q hq hsame hmono using fun c =>
    ComponentPattern.exists_ofText_ignoring_case (hp c) (hnone c)
  have hprotocol : q .protocol = p.components.protocol := hsame .protocol rfl
  refine ⟨⟨.ofFn q, true⟩, ?_, fun input base htest => ?_, fun c hc v => ?_⟩
  · rw [ofFields, hpatterns, ok_bind, compile_eq_ok_iff]
    refine ⟨rfl, fun c => ?_⟩
    rw [Components.get_ofFn, ← hq c, ← hprotocol]
    rfl
  · obtain ⟨values, hvalues, hmatch⟩ := test_iff.1 htest
    refine test_iff.2 ⟨values, hvalues, fun c => ?_⟩
    rw [Components.get_ofFn]
    exact hmono c _ (hmatch c)
  · have hcase : c.mayIgnoreCase = false := by
      cases c <;> first | rfl | exact absurd hc (by decide)
    rw [Components.get_ofFn, hsame c hcase]

/-- Parts of all kinds. Where case is ignored, the path may be in capitals, but not the user. -/
theorem exists_ofFields_ignoring_case_of_path :
    let f := (Fields.empty.set .username "u".toList).set .pathname
      "/a{/:b}*{/c}?/*".toList
    ∃ p q, ofFields f false = .ok p ∧ p.hasRegexp = false ∧ ofFields f true = .ok q ∧
      q.test (.text "http://u@h/a/B/1/c/d".toList) none ∧
      (q.components.get .username).compiled.isMatch ['U'] = false ∧
      p.test (.text "http://u@h/A/B/1/C/d".toList) none = false ∧
      q.test (.text "http://u@h/A/B/1/C/d".toList) none := by
  intro f
  have hsensitive : (ofFields f false).toOption.map (fun p => (p.hasRegexp,
      p.test (.text "http://u@h/a/B/1/c/d".toList) none,
      (p.components.get .username).compiled.isMatch ['U'],
      p.test (.text "http://u@h/A/B/1/C/d".toList) none)) = some (false, true, false, false) := by
    decide +kernel
  have hignoring : (ofFields f true).toOption.map
      (·.test (.text "http://u@h/A/B/1/C/d".toList) none) = some true := by
    decide +kernel
  obtain ⟨p, hp, hsensitive⟩ := Option.map_eq_some_iff.1 hsensitive
  obtain ⟨q', hq', hcapitals⟩ := Option.map_eq_some_iff.1 hignoring
  rw [toOption_eq_some] at hp hq'
  simp only [Prod.mk.injEq] at hsensitive
  obtain ⟨hregexp, hlower, huser, hupper⟩ := hsensitive
  obtain ⟨q, hq, hmono, hsame⟩ := exists_ofFields_ignoring_case hp hregexp
  obtain rfl : q = q' := Except.ok.inj (hq.symm.trans hq')
  exact ⟨p, q, hp, hregexp, hq, hmono _ _ hlower, (hsame .username (by decide) _).trans huser,
    hupper, hcapitals⟩

end Matcher

end UrlMatch
