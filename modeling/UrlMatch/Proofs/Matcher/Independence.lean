import UrlMatch.Proofs.Fields.Base
import UrlMatch.Proofs.Matcher.Compile

/-!
# How the components of a URL pattern depend on one another

Which components are given decides what is inherited from a base; their texts do not. So where the
text of one component is exchanged for another one, the other components are described as before,
and compile to the same patterns. The protocol alone has a say beyond itself: a port that is its own
is left out, and the path is read as one of a special scheme if it matches one.

## Main results

* `Fields.get_complete_pattern_congr`: what describes a component depends on its own text only.
* `Matcher.components_eq_of_agree`: the components that stay the same when one of them is exchanged.
-/

namespace UrlMatch

/-! ### What describes a component -/

namespace Fields

variable {f g : Fields} {mode : Mode} {base : Option Url} {c d : Component}
  {defaults values values' : Components Text}

/-- What is inherited is known from which components are given. -/
theorem inherits_congr (hgiven : ∀ d, (f.get? d).isNone = (g.get? d).isNone) :
    f.inherits mode c = g.inherits mode c := by
  rw [inherits, inherits, lacks, lacks]
  simp only [hgiven]

theorem beneath_congr (hgiven : ∀ d, (f.get? d).isNone = (g.get? d).isNone) :
    f.beneath mode base defaults = g.beneath mode base defaults := by
  cases base with
  | none => rfl
  | some u =>
      refine Components.ext_get fun c => ?_
      rw [beneath, beneath, get_inherit, get_inherit, inherits_congr hgiven]

/-- The pattern of a component is not looked at beside a protocol. -/
theorem placed_pattern_congr (base : Option Url) (hd : f.get? d = g.get? d)
    (protocol protocol' before : Text) :
    f.placed .pattern base protocol d before = g.placed .pattern base protocol' d before := by
  rw [placed.eq_def, placed.eq_def, hd]
  cases g.get? d <;> rfl

/-- **What describes a component depends on its own text**, on the base, and on which of the other
components are given. -/
theorem get_complete_pattern_congr (hbase : f.base = g.base)
    (hgiven : ∀ d, (f.get? d).isNone = (g.get? d).isNone) (hd : f.get? d = g.get? d)
    (hf : f.complete .pattern defaults = .ok values)
    (hg : g.complete .pattern defaults = .ok values') : values.get d = values'.get d := by
  obtain ⟨base, hread, hplaced⟩ := exists_placed_of_complete hf
  obtain ⟨base', hread', hplaced'⟩ := exists_placed_of_complete hg
  obtain rfl : base = base' := by
    rw [baseUrl, ← hbase, ← baseUrl] at hread'
    exact Except.ok.inj (hread.symm.trans hread')
  have hsame := placed_pattern_congr base hd values.protocol values'.protocol
    ((f.beneath .pattern base defaults).get d)
  rw [hplaced d, beneath_congr hgiven, hplaced' d] at hsame
  exact Except.ok.inj hsame

theorem get?_set_of_ne (f : Fields) (t : Text) (h : c ≠ d) : (f.set c t).get? d = f.get? d :=
  Components.get_set_of_ne f.values (some t) h

/-- **Exchanging the text of a component that is given** exchanges what describes it. -/
theorem complete_pattern_set (h : f.complete .pattern defaults = .ok values)
    (hc : (f.get? c).isSome) (t : Text) :
    ∃ base, f.baseUrl = .ok base ∧ (f.set c t).complete .pattern defaults =
      .ok (values.set c (completed .pattern base c t)) := by
  obtain ⟨base, hread, -⟩ := exists_placed_of_complete h
  obtain ⟨values', hvalues'⟩ := exists_complete_pattern (f := f.set c t) hread defaults
  refine ⟨base, hread, hvalues'.trans (congrArg _ (Components.ext_get fun d => ?_))⟩
  by_cases hd : c = d
  · subst hd
    obtain ⟨base', hread', hplaced⟩ := exists_placed_of_complete hvalues'
    obtain rfl : base = base' := Except.ok.inj (hread.symm.trans hread')
    have hset := hplaced c
    rw [placed.eq_def, get?_set_self] at hset
    rw [Components.get_set_self, ← Except.ok.inj hset]
  · have hgiven (d : Component) : ((f.set c t).get? d).isNone = (f.get? d).isNone := by
      by_cases hd : c = d
      · subst hd
        rw [get?_set_self, ← Option.not_isSome, ← Option.not_isSome, hc]
        rfl
      · rw [get?_set_of_ne f t hd]
    rw [Components.get_set_of_ne values _ hd]
    exact get_complete_pattern_congr (f := f.set c t) (g := f) rfl hgiven (get?_set_of_ne f t hd)
      hvalues' h

end Fields

/-! ### The compiled components -/

/-- Only the path is read according to the scheme. -/
theorem ComponentPattern.ofText_congr {d : Component} (hd : d ≠ .pathname)
    (special special' ignoreCase : Bool) (t : Text) :
    ofText d special ignoreCase t = ofText d special' ignoreCase t := by
  cases d <;> first | rfl | exact absurd rfl hd

namespace Matcher

variable {f g : Fields} {ignoreCase : Bool} {c d : Component} {p q : Matcher}
  {patterns patterns' : Components Text}

/-- The port is the protocol's own, so it is left out. -/
def HasDefaultPort (patterns : Components Text) : Prop :=
  Url.defaultPort? (Text.asciiLower patterns.protocol) = some patterns.port

instance (patterns : Components Text) : Decidable (HasDefaultPort patterns) :=
  inferInstanceAs (Decidable (_ = _))

theorem withoutDefaultPort_of_hasDefaultPort (h : HasDefaultPort patterns) :
    withoutDefaultPort patterns = { patterns with port := [] } := if_pos h

theorem withoutDefaultPort_of_not (h : ¬HasDefaultPort patterns) :
    withoutDefaultPort patterns = patterns := if_neg h

/-- **Exchanging the pattern of one component**, but for the protocol, exchanges what it is compiled
to. -/
theorem compile_set {r : ComponentPattern} {t : Text} (h : compile patterns ignoreCase = .ok p)
    (hc : c ≠ .protocol)
    (hr : ComponentPattern.ofText c p.components.protocol.matchesSpecialScheme ignoreCase t =
      .ok r) :
    compile (patterns.set c t) ignoreCase = .ok { p with components := p.components.set c r } := by
  obtain ⟨hcase, hall⟩ := compile_eq_ok_iff.1 h
  have hprotocol : (p.components.set c r).protocol = p.components.protocol :=
    Components.get_set_of_ne p.components r hc
  refine compile_eq_ok_iff.2 ⟨hcase, fun d => ?_⟩
  rw [hprotocol]
  by_cases hd : c = d
  · subst hd
    rw [Components.get_set_self, Components.get_set_self, hr]
  · rw [Components.get_set_of_ne _ _ hd, Components.get_set_of_ne _ _ hd]
    exact hall d

/-- What is left of the pattern of a component is the same in both, if the pattern itself is, and
for a port if both or none of the two are the protocol's own. -/
theorem get_withoutDefaultPort_congr (h : patterns.get d = patterns'.get d)
    (hport : d = .port → (HasDefaultPort patterns ↔ HasDefaultPort patterns')) :
    (withoutDefaultPort patterns).get d = (withoutDefaultPort patterns').get d := by
  by_cases hd : d = .port
  · by_cases hdefault : HasDefaultPort patterns
    · rw [withoutDefaultPort_of_hasDefaultPort hdefault,
        withoutDefaultPort_of_hasDefaultPort ((hport hd).1 hdefault), hd]
      rfl
    · rw [withoutDefaultPort_of_not hdefault,
        withoutDefaultPort_of_not (mt (hport hd).2 hdefault), h]
  · rw [get_withoutDefaultPort fun hport => absurd hport hd,
      get_withoutDefaultPort fun hport => absurd hport hd, h]

/-- **The other components stay the same when one of them is exchanged**, with two exceptions. The
port may be left out beside one protocol and not beside the other, and the path may be read
differently if only one of the protocols matches a special scheme. -/
theorem components_eq_of_agree (hbase : f.base = g.base) (hfc : (f.get? c).isSome)
    (hgc : (g.get? c).isSome) (hagree : ∀ d, d ≠ c → f.get? d = g.get? d)
    (hp : ofFields f ignoreCase = .ok p) (hq : ofFields g ignoreCase = .ok q) :
    ∃ patterns patterns', f.complete .pattern (.replicate wildcard) = .ok patterns ∧
      g.complete .pattern (.replicate wildcard) = .ok patterns' ∧
      ∀ d, d ≠ c → patterns.get d = patterns'.get d ∧
        (p.components.get d = q.components.get d ∨ c = .protocol ∧
          (d = .port ∧ ¬(HasDefaultPort patterns ↔ HasDefaultPort patterns') ∨
            d = .pathname ∧ p.components.protocol.matchesSpecialScheme ≠
              q.components.protocol.matchesSpecialScheme)) := by
  obtain ⟨patterns, hpatterns, hp⟩ := bind_eq_ok.1 hp
  obtain ⟨patterns', hpatterns', hq⟩ := bind_eq_ok.1 hq
  have hgiven (d : Component) : (f.get? d).isNone = (g.get? d).isNone := by
    by_cases hd : d = c
    · subst hd
      rw [← Option.not_isSome, ← Option.not_isSome, hfc, hgc]
    · rw [hagree d hd]
  have hsame (d : Component) (hd : d ≠ c) : patterns.get d = patterns'.get d :=
    Fields.get_complete_pattern_congr hbase hgiven (hagree d hd) hpatterns hpatterns'
  refine ⟨patterns, patterns', hpatterns, hpatterns', fun d hd => ⟨hsame d hd, ?_⟩⟩
  obtain ⟨-, hp⟩ := compile_eq_ok_iff.1 hp
  obtain ⟨-, hq⟩ := compile_eq_ok_iff.1 hq
  -- the same text is compiled to the same pattern, unless it is a path
  have hcompiled (d : Component)
      (htext : (withoutDefaultPort patterns).get d = (withoutDefaultPort patterns').get d)
      (hspecial : d = .pathname → p.components.protocol.matchesSpecialScheme =
        q.components.protocol.matchesSpecialScheme) :
      p.components.get d = q.components.get d := by
    have hpd := hp d
    rw [htext] at hpd
    by_cases hpathname : d = .pathname
    · rw [hspecial hpathname] at hpd
      exact Except.ok.inj (hpd.symm.trans (hq d))
    · rw [ComponentPattern.ofText_congr hpathname _ q.components.protocol.matchesSpecialScheme]
        at hpd
      exact Except.ok.inj (hpd.symm.trans (hq d))
  by_cases hprotocol : c = .protocol
  · by_cases hexception : d = .port ∧ ¬(HasDefaultPort patterns ↔ HasDefaultPort patterns') ∨
        d = .pathname ∧ p.components.protocol.matchesSpecialScheme ≠
          q.components.protocol.matchesSpecialScheme
    · exact .inr ⟨hprotocol, hexception⟩
    · obtain ⟨hport, hpathname⟩ := not_or.1 hexception
      have htext := get_withoutDefaultPort_congr (hsame d hd)
        fun heq => not_not.1 fun hne => hport ⟨heq, hne⟩
      exact .inl (hcompiled d htext fun heq => not_not.1 fun hne => hpathname ⟨heq, hne⟩)
  · have hsameProtocol : patterns.protocol = patterns'.protocol :=
      hsame .protocol (Ne.symm hprotocol)
    have hspecial : p.components.protocol = q.components.protocol :=
      hcompiled .protocol (get_withoutDefaultPort_congr hsameProtocol nofun) nofun
    refine .inl (hcompiled d (get_withoutDefaultPort_congr (hsame d hd) ?_)
      fun _ => congrArg _ hspecial)
    rintro rfl
    have hsamePort : patterns.port = patterns'.port := hsame .port hd
    rw [HasDefaultPort, HasDefaultPort, hsameProtocol, hsamePort]

/-- A host stays the same beside another protocol. The port does not: it is left out as the first
protocol's own. -/
theorem components_eq_of_agree_protocol :
    let f := (Fields.empty.set .hostname "*.h".toList).set .port "80".toList
    ∃ p q, ofFields (f.set .protocol "http".toList) false = .ok p ∧
      ofFields (f.set .protocol "foo".toList) false = .ok q ∧
      p.components.hostname = q.components.hostname ∧ p.pattern .port = [] ∧
      q.pattern .port = "80".toList := by
  intro f
  have hports : ((ofFields (f.set .protocol "http".toList) false).toOption.map (pattern · .port),
      (ofFields (f.set .protocol "foo".toList) false).toOption.map (pattern · .port)) =
        (some [], some "80".toList) := by
    decide +kernel
  obtain ⟨hp, hq⟩ := Prod.mk.inj hports
  obtain ⟨p, hp, hport⟩ := Option.map_eq_some_iff.1 hp
  obtain ⟨q, hq, hport'⟩ := Option.map_eq_some_iff.1 hq
  rw [toOption_eq_some] at hp hq
  have hagree : ∀ d, d ≠ .protocol →
      (f.set .protocol "http".toList).get? d = (f.set .protocol "foo".toList).get? d := by
    intro d hd
    cases d <;> first | rfl | exact absurd rfl hd
  have hbase : (f.set .protocol "http".toList).base = (f.set .protocol "foo".toList).base := rfl
  obtain ⟨_, _, -, -, hsame⟩ := components_eq_of_agree hbase rfl rfl hagree hp hq
  have hhostname := (hsame .hostname nofun).2.resolve_right (by simp)
  exact ⟨p, q, hp, hq, hhostname, hport, hport'⟩

end Matcher

end UrlMatch
