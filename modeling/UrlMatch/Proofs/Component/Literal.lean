import UrlMatch.Proofs.Component.Canonical

/-!
# Literals of components

An escaped text is a pattern of every component. It stands for the canonical form of the text and
matches that, however the component matches.

## Main results

* `isMatch_ofText_escape`: the pattern that a text is escaped to matches its canonical form.
* `exists_ofText_escape`: the pattern that a canonical text is escaped to compiles.
-/

namespace UrlMatch

open Pattern

namespace Encoding

/-- Escaping hides or feigns no IPv6 address, if what looks like one is in brackets. -/
theorem looksLikeIpv6_escape {v : Text} (h : looksLikeIpv6 v → checkIpv6Literal v = .ok ()) :
    looksLikeIpv6 (escape v) = looksLikeIpv6 v := by
  have hbracket : looksLikeIpv6 v → v.head? = some '[' := by
    intro hlooks
    obtain ⟨w, rfl, -⟩ := checkIpv6Literal_eq_ok_iff.1 (h hlooks)
    rfl
  cases v with
  | nil => rfl
  | cons c v =>
      by_cases hc : c = '['
      · subst hc
        rw [escape_cons_plain (by decide)]
        cases v with
        | nil => rfl
        | cons d v =>
            rw [escape_cons]
            split <;> rfl
      · have hlooks : looksLikeIpv6 (c :: v) = false := by
          by_contra hlooks
          exact hc (Option.some.inj (hbracket (by simpa using hlooks)))
        rw [hlooks]
        by_contra hescaped
        rw [Bool.not_eq_false] at hescaped
        have hopens := (looksLikeIpv6_iff.1 hescaped).1
        by_cases hspecial : isSpecial c
        · rw [escape_cons_special hspecial, opensBracket.eq_def] at hopens
          split at hopens <;> simp_all
        · rw [escape_cons_plain (by simpa using hspecial), opensBracket.eq_def] at hopens
          split at hopens <;> simp_all [isSpecial]

end Encoding

namespace Component

/-- The canonical form depends on the whole text for a host name only, and on the scheme for a path
only. -/
theorem encode_congr {c : Component} {raw raw' t : Text} {special special' : Bool}
    (hraw : c = .hostname → Encoding.looksLikeIpv6 raw' = Encoding.looksLikeIpv6 raw)
    (hspecial : c = .pathname →
      special' = special ∨ Encoding.specialPathname t = Encoding.opaquePathname t) :
    c.encode raw' special' t = c.encode raw special t := by
  cases c with
  | hostname => rw [encode, encode, hraw rfl]
  | pathname =>
      rcases hspecial rfl with rfl | heq
      · rfl
      · rw [encode, encode]
        cases special <;> cases special' <;> simp [heq]
  | _ => rfl

end Component

namespace ComponentPattern

variable {c : Component} {special ignoreCase : Bool} {v w : Text} {p : ComponentPattern}

/-- The parts of an escaped text are the literal of its canonical form, but for blank ones. -/
theorem withoutBlank_of_parse_escape {o : ReadOptions} {ps : List Part} (hw : o.canonical v = .ok w)
    (h : parse o (escape v) = .ok ps) : withoutBlank ps = literalParts w := by
  rw [parse_escape, gathered] at h
  split at h
  · rename_i hv
    subst hv
    cases h
    cases hw
    rfl
  · rw [hw] at h
    cases h
    rw [literalParts]
    split
    · rename_i hnil
      rw [hnil]
      rfl
    · rename_i hne
      cases w with
      | nil => exact absurd rfl hne
      | cons ch w => rfl

/-- The pattern that a text is escaped to is compiled as the literal of its canonical form. -/
theorem compile_literalParts (h : ofText c special ignoreCase (escape v) = .ok p)
    (hw : c.encode (escape v) special v = .ok w) :
    Pattern.compile (c.matchOptions ignoreCase) (literalParts w) = .ok p.compiled := by
  obtain ⟨ps, compiled, hps, hcompiled, rfl⟩ := compile_eq_ok_iff.1 h
  have hparse := (parts_eq_ok_iff.1 hps).1
  rw [← withoutBlank_of_parse_escape (Component.canonical_eq_ok_iff.2 hw) hparse,
    compile_withoutBlank (c.toEnd_matchOptions ignoreCase), hcompiled]

/-- **The pattern that a text is escaped to matches the canonical form of the text.** -/
theorem isMatch_ofText_escape (h : ofText c special ignoreCase (escape v) = .ok p)
    (hw : c.encode (escape v) special v = .ok w) : p.compiled.isMatch w := by
  obtain ⟨compiled, hcompiled, hmatch⟩ := isMatch_literal_self (c.toEnd_matchOptions ignoreCase) w
  obtain rfl := Except.ok.inj ((compile_literalParts h hw).symm.trans hcompiled)
  exact hmatch

/-- Where case makes a difference, the pattern that a text is escaped to matches the canonical form
of the text, up to what is tolerated behind the end. -/
theorem isMatch_ofText_escape_iff (h : ofText c special ignoreCase (escape v) = .ok p)
    (hw : c.encode (escape v) special v = .ok w)
    (hsensitive : (c.matchOptions ignoreCase).sensitive) (t : Text) : p.compiled.isMatch t ↔
      ∃ s, t = w ++ s ∧ (c.matchOptions ignoreCase).Tolerates s := by
  obtain ⟨compiled, hcompiled, hmatch⟩ := isMatch_literal_iff hsensitive
    (c.fromStart_matchOptions ignoreCase) (c.toEnd_matchOptions ignoreCase) w
  obtain rfl := Except.ok.inj ((compile_literalParts h hw).symm.trans hcompiled)
  exact hmatch t

/-- The pattern that a scheme is escaped to matches nothing but the scheme in lower case. -/
theorem isMatch_protocol_iff (h : ofText .protocol special ignoreCase (escape v) = .ok p)
    (hw : Encoding.protocol v = .ok w) (t : Text) : p.compiled.isMatch t ↔ t = w := by
  have hsensitive : (Component.matchOptions .protocol ignoreCase).sensitive := by
    cases ignoreCase <;> rfl
  exact (isMatch_ofText_escape_iff h hw hsensitive t).trans (exists_tolerated_iff rfl)

/-- **The pattern that a canonical text is escaped to compiles**, if its brackets are in order. -/
theorem exists_ofText_escape (ignoreCase : Bool) (hv : c.encode (escape v) special v = .ok v)
    (hbrackets : c = .hostname → Encoding.looksLikeIpv6 (escape v) →
      Encoding.checkBrackets v = .ok ()) :
    ∃ p, ofText c special ignoreCase (escape v) = .ok p := by
  have hparse : parse (c.readOptions (escape v) special) (escape v) = .ok (literalParts v) := by
    rw [parse_escape]
    exact gathered_eq_literalParts (Component.canonical_eq_ok_iff.2 hv) id
  have hfixed : fixedText (literalParts v) = v := by
    rw [literalParts]
    split <;> simp_all [fixedText]
  have hparts : parts c (escape v) (c.readOptions (escape v) special) = .ok (literalParts v) := by
    refine parts_eq_ok_iff.2 ⟨hparse, fun h => ?_⟩
    rw [hfixed, hbrackets h.1 h.2]
  obtain ⟨compiled, hcompiled, -⟩ := isMatch_literal_self (c.toEnd_matchOptions ignoreCase) v
  exact ⟨_, compile_eq_ok_iff.2 ⟨_, compiled, hparts, hcompiled, rfl⟩⟩

end ComponentPattern

end UrlMatch
