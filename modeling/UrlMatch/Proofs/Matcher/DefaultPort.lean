import UrlMatch.Proofs.Component.Base
import UrlMatch.Proofs.Matcher.Exec
import UrlMatch.Proofs.Matcher.Independence
import UrlMatch.Proofs.Matcher.Literal

/-!
# Default ports

No input stands for a URL whose port is the one that its scheme uses anyway: such a port is left
out, wherever it comes from, and however it is spelled. A URL pattern that asks for the two together
matches nothing, unless its port is left out as well. Whether it is, its texts decide as they are
written, the protocol up to case, the port character by character.

## Main results

* `Matcher.defaultPort?_ne_of_resolve?`: **no input has the port that its scheme uses anyway**.
* `Matcher.ofFields_defaultPort_iff`: what becomes of a pattern with such a port.
-/

namespace UrlMatch

open Pattern

/-! ### The values of an input -/

namespace Fields

variable {f : Fields} {mode : Mode} {values defaults : Components Text}

/-- A port that is not given is missing, or comes from a base together with the protocol. -/
theorem port_of_none (h : f.complete mode defaults = .ok values) (hport : f.get? .port = none) :
    values.port = defaults.port ∨ ∃ u : Url, u.HoldsPort ∧ Text.asciiLower u.scheme = u.scheme ∧
      values.protocol = inherited mode u.scheme ∧ values.port = inherited mode u.portText := by
  refine (get_of_none h hport).imp id ?_
  rintro ⟨u, hbase, hinherits, hvalue⟩
  obtain ⟨t, hparse⟩ := exists_parse_of_baseUrl hbase
  have hprotocol : f.inherits mode .protocol := by
    simp_all [inherits, lacks, guards]
  exact ⟨u, Url.holdsPort_of_parse (by simp) hparse, Url.asciiLower_scheme hparse,
    get_of_inherits h hbase hprotocol, hvalue⟩

/-- The values of fields do not have the port that their protocol uses anyway. -/
theorem defaultPort?_ne_of_complete (h : f.complete .url (.replicate []) = .ok values) :
    Url.defaultPort? values.protocol ≠ some values.port := by
  cases hport : f.get? .port with
  | none =>
      rcases port_of_none h hport with hmissing | ⟨u, hu, -, hscheme, hinherited⟩
      · rw [hmissing]
        exact Url.defaultPort?_ne_nil _
      · rw [hscheme, hinherited]
        exact hu.defaultPort?_ne
  | some raw =>
      obtain ⟨base, -, hplaced⟩ := exists_placed_of_complete h
      have hvalue := hplaced .port
      rw [placed.eq_def, hport] at hvalue
      obtain ⟨-, w, -, hleft⟩ := encode_of_canonicalValue hvalue
      have hleft : values.port = if Url.defaultPort? values.protocol = some w then [] else w :=
        hleft.trans (by simp only [true_and])
      rw [hleft]
      split
      · exact Url.defaultPort?_ne_nil _
      · assumption

end Fields

namespace Matcher

variable {input : Input} {base : Option Text} {values : Components Text} {u : Url} {t : Text}

theorem holdsPort_of_parseUrl? (h : parseUrl? t base = some u) : u.HoldsPort :=
  of_parseUrl? Url.holdsPort_of_parse h

/-- **No input has the port that its scheme uses anyway.** -/
theorem defaultPort?_ne_of_resolve? (h : resolve? input base = some values) :
    Url.defaultPort? values.protocol ≠ some values.port := by
  cases input with
  | text t =>
      obtain ⟨u, hu, rfl⟩ := Option.map_eq_some_iff.1 h
      exact (holdsPort_of_parseUrl? hu).defaultPort?_ne
  | fields f =>
      cases base with
      | none => exact Fields.defaultPort?_ne_of_complete (toOption_eq_some.1 h)
      | some b => cases h

end Matcher

/-! ### The pattern of a port -/

namespace Matcher

variable {f : Fields} {ignoreCase special : Bool} {patterns : Components Text} {p q : Matcher}
  {scheme digits : Text}

/-- The patterns ask for a single protocol, and for the port that it uses anyway. -/
structure AsksDefaultPort (patterns : Components Text) (scheme digits : Text) : Prop where
  protocol : parse (Component.readOptions .protocol patterns.protocol false) patterns.protocol =
    .ok [.fixed scheme .once]
  port : parse (Component.readOptions .port patterns.port false) patterns.port =
    .ok [.fixed digits .once]
  own : Url.defaultPort? scheme = some digits

namespace AsksDefaultPort

theorem digits_ne_nil (h : AsksDefaultPort patterns scheme digits) : digits ≠ [] := by
  rintro rfl
  exact Url.defaultPort?_ne_nil scheme h.own

/-- Such a port is given: it is neither a wildcard, nor does it come from a base. -/
theorem isSome_port (h : AsksDefaultPort patterns scheme digits)
    (hpatterns : f.complete .pattern (.replicate wildcard) = .ok patterns) :
    (f.get? .port).isSome := by
  by_contra hmissing
  have hnone : f.get? .port = none := by simpa using hmissing
  rcases Fields.port_of_none hpatterns hnone with hwildcard | ⟨u, hu, hlower, hprotocol, hport⟩
  · have hread := h.port
    rw [hwildcard] at hread
    cases (parse_asterisk _).symm.trans hread
  · have hscheme : Encoding.protocol u.scheme = .ok scheme := by
      have hread := h.protocol
      rw [hprotocol] at hread
      exact Component.canonical_eq_ok_iff.1 (canonical_of_parse_escape hread)
    have hown : Encoding.port u.portText = .ok digits := by
      have hread := h.port
      rw [hport] at hread
      exact Component.canonical_eq_ok_iff.1 (canonical_of_parse_escape hread)
    have hdefault := h.own
    rw [(Encoding.protocol_eq_ok_iff.1 hscheme).2, hlower,
      ← Except.ok.inj ((Component.port_portText hu).symm.trans hown)] at hdefault
    exact hu.defaultPort?_ne hdefault

/-- The pattern of the port compiles, and matches this port only. -/
theorem exists_ofText_port (h : AsksDefaultPort patterns scheme digits)
    (special ignoreCase : Bool) :
    ∃ r, ComponentPattern.ofText .port special ignoreCase patterns.port = .ok r ∧
      ∀ t, r.compiled.isMatch t ↔ t = digits := by
  refine ComponentPattern.exists_ofText_literal (.inr rfl) special ignoreCase ?_
  rw [literalParts_of_ne_nil h.digits_ne_nil]
  exact h.port

/-- The pattern of the protocol matches this protocol only. -/
theorem isMatch_protocol_iff (h : AsksDefaultPort patterns scheme digits)
    (hp : ComponentPattern.ofText .protocol special ignoreCase patterns.protocol =
      .ok p.components.protocol) (t : Text) :
    p.components.protocol.compiled.isMatch t ↔ t = scheme := by
  have hne : scheme ≠ [] := by
    rintro rfl
    cases h.own
  obtain ⟨r, hr, hmatch⟩ := ComponentPattern.exists_ofText_literal (c := .protocol) (.inl rfl)
    special ignoreCase ((literalParts_of_ne_nil hne).symm ▸ h.protocol)
  obtain rfl := Except.ok.inj (hp.symm.trans hr)
  exact hmatch t

end AsksDefaultPort

/-- The pattern of an empty port compiles, and matches the empty port only. -/
theorem exists_ofText_noPort (special ignoreCase : Bool) :
    ∃ r, ComponentPattern.ofText .port special ignoreCase [] = .ok r ∧
      ∀ t, r.compiled.isMatch t ↔ t = [] :=
  ComponentPattern.exists_ofText_literal (.inr rfl) special ignoreCase
    (parse_escape (Component.readOptions .port [] special) [])

/-- What fields describe is compiled from the patterns that they are completed to. -/
theorem ofFields_of_complete (h : f.complete .pattern (.replicate wildcard) = .ok patterns)
    (ignoreCase : Bool) :
    ofFields f ignoreCase = compile (withoutDefaultPort patterns) ignoreCase := by
  rw [ofFields, h, ok_bind]

/-- An empty port is taken as it is. -/
theorem ofFields_set_port (h : f.complete .pattern (.replicate wildcard) = .ok patterns)
    (hport : (f.get? .port).isSome) (ignoreCase : Bool) :
    ofFields (f.set .port []) ignoreCase = compile (patterns.set .port []) ignoreCase := by
  obtain ⟨base, -, hset⟩ := Fields.complete_pattern_set h hport []
  rw [ofFields_of_complete hset, withoutDefaultPort_of_not]
  · rfl
  · exact Url.defaultPort?_ne_nil _

/-- The port is matched by its digits, unless it is left out. -/
theorem AsksDefaultPort.isMatch_port_iff (h : AsksDefaultPort patterns scheme digits)
    (hp : compile patterns ignoreCase = .ok p) (t : Text) :
    p.components.port.compiled.isMatch t ↔ t = digits := by
  obtain ⟨r, hr, hmatch⟩ :=
    h.exists_ofText_port p.components.protocol.matchesSpecialScheme ignoreCase
  obtain rfl := Except.ok.inj (((compile_eq_ok_iff.1 hp).2 .port).symm.trans hr)
  exact hmatch t

/-- With the port or with none, all patterns compile or they do not. -/
theorem AsksDefaultPort.exists_compile_iff (h : AsksDefaultPort patterns scheme digits)
    (ignoreCase : Bool) : (∃ p, compile patterns ignoreCase = .ok p) ↔
      ∃ q, compile (patterns.set .port []) ignoreCase = .ok q := by
  constructor
  · rintro ⟨p, hp⟩
    obtain ⟨r, hr, -⟩ :=
      exists_ofText_noPort p.components.protocol.matchesSpecialScheme ignoreCase
    exact ⟨_, compile_set hp nofun hr⟩
  · rintro ⟨q, hq⟩
    obtain ⟨r, hr, -⟩ :=
      h.exists_ofText_port q.components.protocol.matchesSpecialScheme ignoreCase
    have hback := compile_set (c := .port) hq nofun hr
    exact ⟨_, hback⟩

/-- A URL pattern that keeps the port matches nothing. -/
theorem AsksDefaultPort.test_eq_false (h : AsksDefaultPort patterns scheme digits)
    (hp : compile patterns ignoreCase = .ok p) (input : Input) (base : Option Text) :
    p.test input base = false := by
  by_contra htest
  rw [Bool.not_eq_false] at htest
  obtain ⟨values, hvalues, hall⟩ := test_iff.1 htest
  have hprotocol : values.protocol = scheme :=
    (h.isMatch_protocol_iff ((compile_eq_ok_iff.1 hp).2 .protocol) _).1 (hall .protocol)
  have hport : values.port = digits := (h.isMatch_port_iff hp _).1 (hall .port)
  refine defaultPort?_ne_of_resolve? hvalues ?_
  rw [hprotocol, hport, h.own]

/-- **A port that its protocol uses anyway** does not keep a URL pattern from being compiled: it is
compiled exactly if it is without the port. Both describe the other components alike, and the port
too exactly if its pattern is left out for the way in which it is written. Otherwise the URL pattern
matches nothing. -/
theorem ofFields_defaultPort_iff
    (hpatterns : f.complete .pattern (.replicate wildcard) = .ok patterns)
    (hasks : AsksDefaultPort patterns scheme digits) (ignoreCase : Bool) :
    ((∃ p, ofFields f ignoreCase = .ok p) ↔ ∃ q, ofFields (f.set .port []) ignoreCase = .ok q) ∧
      ∀ p q, ofFields f ignoreCase = .ok p → ofFields (f.set .port []) ignoreCase = .ok q →
        (∀ c, c ≠ .port → p.components.get c = q.components.get c) ∧
        ((∀ c, (p.components.get c).compiled.source = (q.components.get c).compiled.source ∧
          p.pattern c = q.pattern c) ↔ HasDefaultPort patterns) ∧
        (¬HasDefaultPort patterns → ∀ input base, p.test input base = false) := by
  rw [ofFields_of_complete hpatterns, ofFields_set_port hpatterns (hasks.isSome_port hpatterns)]
  by_cases hdefault : HasDefaultPort patterns
  · have hleft : withoutDefaultPort patterns = patterns.set .port [] :=
      withoutDefaultPort_of_hasDefaultPort hdefault
    rw [hleft]
    refine ⟨Iff.rfl, fun p q hp hq => ?_⟩
    obtain rfl := Except.ok.inj (hp.symm.trans hq)
    exact ⟨fun _ _ => rfl, iff_of_true (fun _ => ⟨rfl, rfl⟩) hdefault, fun h => absurd hdefault h⟩
  · rw [withoutDefaultPort_of_not hdefault]
    refine ⟨hasks.exists_compile_iff ignoreCase, fun p q hp hq => ?_⟩
    obtain ⟨r, hr, hnone⟩ :=
      exists_ofText_noPort p.components.protocol.matchesSpecialScheme ignoreCase
    obtain rfl := Except.ok.inj (hq.symm.trans (compile_set hp nofun hr))
    refine ⟨fun c hc => (Components.get_set_of_ne _ _ (Ne.symm hc)).symm,
      iff_of_false (fun hsame => ?_) hdefault, fun _ => hasks.test_eq_false hp⟩
    have hport := (compile_eq_ok_iff.1 hp).2 .port
    have hprogram := ComponentPattern.isMatch_congr hport hr (hsame .port).1
    exact hasks.digits_ne_nil ((hnone _).1 (hprogram ▸ (hasks.isMatch_port_iff hp _).2 rfl))

/-- A protocol in capital letters has the same port of its own, so that the port is left out. -/
theorem ofFields_defaultPort_of_capitals :
    let f := (Fields.empty.set .protocol "HTTPS:".toList).set .port "443".toList
    let patterns :=
      ((Components.replicate wildcard).set .protocol "HTTPS".toList).set .port "443".toList
    ∃ p q, f.complete .pattern (.replicate wildcard) = .ok patterns ∧
      AsksDefaultPort patterns "https".toList "443".toList ∧ ofFields f false = .ok p ∧
      ofFields (f.set .port []) false = .ok q ∧ ∀ c,
        (p.components.get c).compiled.source = (q.components.get c).compiled.source ∧
          p.pattern c = q.pattern c := by
  intro f patterns
  have hpatterns : f.complete .pattern (.replicate wildcard) = .ok patterns := by decide +kernel
  have hasks : AsksDefaultPort patterns "https".toList "443".toList :=
    ⟨by decide +kernel, by decide +kernel, by decide⟩
  have hp : (ofFields f false).toOption.isSome := by decide +kernel
  obtain ⟨p, hp⟩ := Option.isSome_iff_exists.1 hp
  rw [toOption_eq_some] at hp
  obtain ⟨hcompiles, hboth⟩ := ofFields_defaultPort_iff hpatterns hasks false
  obtain ⟨q, hq⟩ := hcompiles.1 ⟨p, hp⟩
  exact ⟨p, q, hpatterns, hasks, hp, hq, (hboth p q hp hq).2.1.2 (by decide)⟩

/-- **A port with a zero in front of it is not left out**, though it is the one that the protocol
uses anyway. -/
theorem not_hasDefaultPort_of_zero :
    let f := (Fields.empty.set .protocol "https".toList).set .port "0443".toList
    let patterns :=
      ((Components.replicate wildcard).set .protocol "https".toList).set .port "0443".toList
    ∃ p q, f.complete .pattern (.replicate wildcard) = .ok patterns ∧
      AsksDefaultPort patterns "https".toList "443".toList ∧ ofFields f false = .ok p ∧
      ofFields (f.set .port []) false = .ok q ∧ p.pattern .port ≠ q.pattern .port ∧
      p.components.port.compiled.source ≠ q.components.port.compiled.source := by
  intro f patterns
  have hpatterns : f.complete .pattern (.replicate wildcard) = .ok patterns := by decide +kernel
  have hasks : AsksDefaultPort patterns "https".toList "443".toList :=
    ⟨by decide +kernel, by decide +kernel, by decide⟩
  have hp : (ofFields f false).toOption.map (fun p => (p.pattern .port,
      p.components.port.compiled.source)) = some ("443".toList, "^443$".toList) := by
    decide +kernel
  have hq : (ofFields (f.set .port []) false).toOption.map (fun q => (q.pattern .port,
      q.components.port.compiled.source)) = some ([], "^$".toList) := by
    decide +kernel
  obtain ⟨p, hp, hpboth⟩ := Option.map_eq_some_iff.1 hp
  obtain ⟨q, hq, hqboth⟩ := Option.map_eq_some_iff.1 hq
  obtain ⟨hppattern, hpsource⟩ := Prod.mk.inj hpboth
  obtain ⟨hqpattern, hqsource⟩ := Prod.mk.inj hqboth
  rw [toOption_eq_some] at hp hq
  refine ⟨p, q, hpatterns, hasks, hp, hq, ?_, ?_⟩
  · rw [hppattern, hqpattern]
    decide
  · rw [hpsource, hqsource]
    decide

end Matcher

end UrlMatch
