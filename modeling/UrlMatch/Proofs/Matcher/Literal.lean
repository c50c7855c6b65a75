import UrlMatch.Proofs.Component.Literal
import UrlMatch.Proofs.Component.Wildcard
import UrlMatch.Proofs.Fields.Complete
import UrlMatch.Proofs.Matcher.Compile

/-!
# URL patterns that are literals

Fields are read in two ways: as a URL, whose components are brought into their canonical form, and
as patterns. The pattern that the fields with every text escaped describe matches the URL that the
fields themselves describe, if the two ways agree about what the texts are.

## Main results

* `Matcher.test_escaped`: a URL pattern made of literals matches the fields it was made from.
* `Matcher.not_test_escaped_of_port`: it does not if a port is the protocol's own but is not written
  as that.
-/

namespace UrlMatch

open Pattern

/-! ### Two ways of reading a field -/

namespace Fields

variable {f : Fields} {c : Component} {raw t protocol : Text}

/-- The fields with every text escaped. -/
def escaped (f : Fields) : Fields := ⟨f.values.map fun _ t => t.map Pattern.escape, f.base⟩

theorem get?_escaped (f : Fields) (c : Component) :
    f.escaped.get? c = (f.get? c).map Pattern.escape := by
  simp [get?, escaped]

/-- Read as a URL and, escaped, as patterns, the fields say the same. -/
structure Coherent (f : Fields) : Prop where
  /-- Of two marks in front of a query, a URL loses both, and a pattern one. -/
  search : ∀ t ∈ f.get? .search, ¬ ['?', '?'] <+: t
  /-- The protocol's own port is left out of a URL however it is written, and of patterns only if it
  is written in its canonical form. -/
  port : ∀ scheme ∈ f.get? .protocol, ∀ t ∈ f.get? .port,
    ∀ port ∈ Url.defaultPort? (Text.asciiLower scheme), Encoding.port t = .ok port → t = port
  /-- A URL without protocol has a path as under a special scheme, and an empty pattern for the
  protocol matches no such scheme. -/
  pathname : f.get? .protocol = some [] → ∀ t ∈ f.get? .pathname,
    Encoding.specialPathname t = Encoding.opaquePathname t

/-- What an escaped text stands for as the pattern of a component. The mark of a fragment is taken
away in front of it, as it has no meaning in patterns. -/
def literal (c : Component) (raw : Text) : Text :=
  match c with
  | .hash => Text.dropLeading '#' raw
  | _ => raw

/-- Taking the marks away from an escaped text leaves the escaped literal. -/
theorem completed_escape (hcolon : c = .protocol → raw.getLast? ≠ some ':') :
    completed .pattern none c (Pattern.escape raw) = Pattern.escape (literal c raw) := by
  cases c with
  | protocol => exact dropTrailing_escape (hcolon rfl)
  | search => exact dropLeading_escape_special (by decide) (by decide) raw
  | hash => exact dropLeading_escape_plain (by decide) raw
  | _ => rfl

/-- A second mark is no part of a query either. -/
theorem search_dropLeading (h : ¬ ['?', '?'] <+: raw) :
    Encoding.search (Text.dropLeading '?' raw) = Encoding.search raw := by
  have hdrop : Text.dropLeading '?' (Text.dropLeading '?' raw) = Text.dropLeading '?' raw := by
    by_cases hfirst : raw.head? = some '?'
    · obtain ⟨rest, rfl⟩ := List.head?_eq_some_iff.1 hfirst
      refine Text.dropLeading_eq_self fun hsecond => h ?_
      obtain ⟨rest, rfl⟩ := List.head?_eq_some_iff.1 (show rest.head? = some '?' from hsecond)
      exact List.prefix_append ['?', '?'] rest
    · rw [Text.dropLeading_eq_self hfirst, Text.dropLeading_eq_self hfirst]
  rw [Encoding.search, Encoding.search, hdrop]

/-- A component of a URL and its literal have one canonical form. -/
theorem encode_completed {whole : Text} {special : Bool}
    (hcolon : c = .protocol → raw.getLast? ≠ some ':')
    (hsearch : c = .search → ¬ ['?', '?'] <+: raw) :
    c.encode whole special (completed .url none c raw) =
      c.encode whole special (literal c raw) := by
  cases c with
  | protocol =>
      have hkept : Text.dropTrailing ':' raw = raw := if_neg (hcolon rfl)
      rw [completed, hkept, literal]
      simp
  | search => exact search_dropLeading (hsearch rfl)
  | _ => rfl

/-- What the canonical form of a value tells about the value. -/
theorem encode_of_canonicalValue (h : canonicalValue c protocol raw = .ok t) :
    (c = .hostname ∧ Encoding.looksLikeIpv6 raw → Encoding.checkIpv6Literal raw = .ok ()) ∧
      ∃ w, c.encode raw (protocol = [] || Url.isSpecialScheme protocol) raw = .ok w ∧
        t = if c = .port ∧ Url.defaultPort? protocol = some w then [] else w := by
  rw [canonicalValue] at h
  split at h
  · rename_i w hw
    cases h
    split at hw
    · obtain ⟨⟨⟩, hcheck, hw⟩ := bind_eq_ok.1 hw
      exact ⟨fun _ => hcheck, w, hw, rfl⟩
    · rename_i hip
      exact ⟨fun h => absurd h hip, w, hw, rfl⟩
  · cases h

end Fields

/-! ### The patterns of components -/

namespace Matcher

variable {f : Fields} {ignoreCase : Bool} {m : Matcher} {c : Component} {raw : Text}
  {values patterns : Components Text}

/-- Fields without a base, read as a URL and as patterns, and what the patterns are compiled to. -/
structure Readings (f : Fields) (ignoreCase : Bool) (values patterns : Components Text)
    (m : Matcher) : Prop where
  base : f.base = none
  coherent : f.Coherent
  asUrl : f.complete .url (.replicate []) = .ok values
  asPatterns : f.escaped.complete .pattern (.replicate wildcard) = .ok patterns
  compiled : compile (withoutDefaultPort patterns) ignoreCase = .ok m

namespace Readings

/-! ### One component -/

/-- A component that is not given is empty in the URL, and its pattern is the wildcard. -/
theorem of_none (h : Readings f ignoreCase values patterns m) (hraw : f.get? c = none) :
    values.get c = [] ∧ patterns.get c = wildcard := by
  have hvalue := Fields.placed_of_complete h.base h.asUrl c
  have hpattern := Fields.placed_of_complete (f := f.escaped) h.base h.asPatterns c
  rw [Fields.placed.eq_def, hraw] at hvalue
  rw [Fields.placed.eq_def, Fields.get?_escaped, hraw] at hpattern
  rw [← Except.ok.inj hvalue, ← Except.ok.inj hpattern]
  simp only [Components.get_replicate, and_self]

/-- The pattern of a component that is given. -/
theorem pattern_of_some (h : Readings f ignoreCase values patterns m)
    (hraw : f.get? c = some raw) :
    patterns.get c = Fields.completed .pattern none c (escape raw) := by
  have hplaced := Fields.placed_of_complete (f := f.escaped) h.base h.asPatterns c
  rw [Fields.placed.eq_def, Fields.get?_escaped, hraw] at hplaced
  exact (Except.ok.inj hplaced).symm

/-- The protocol has no colon behind it: escaped, this leaves a backslash, which is no pattern. -/
theorem getLast?_protocol (h : Readings f ignoreCase values patterns m)
    (hraw : f.get? .protocol = some raw) : raw.getLast? ≠ some ':' := by
  intro hcolon
  obtain ⟨front, rfl⟩ := List.getLast?_eq_some_iff.1 hcolon
  have hpattern := h.pattern_of_some hraw
  rw [Fields.completed, dropTrailing_escape_special (by decide)] at hpattern
  have hcompiled := (compile_eq_ok_iff.1 h.compiled).2 .protocol
  rw [get_withoutDefaultPort (c := .protocol) nofun, hpattern] at hcompiled
  obtain ⟨ps, -, hps, -⟩ := ComponentPattern.compile_eq_ok_iff.1 hcompiled
  exact parse_escape_backslash _ _ _ (ComponentPattern.parts_eq_ok_iff.1 hps).1

/-- The pattern of a component that is given is its escaped literal. -/
theorem pattern_eq_escape (h : Readings f ignoreCase values patterns m)
    (hraw : f.get? c = some raw) : patterns.get c = escape (Fields.literal c raw) := by
  rw [h.pattern_of_some hraw, Fields.completed_escape]
  rintro rfl
  exact h.getLast?_protocol hraw

/-- The value of a component that is given is the canonical form of its literal, but for a default
port. -/
theorem value_of_some (h : Readings f ignoreCase values patterns m)
    (hraw : f.get? c = some raw) (special : Bool)
    (hspecial : c = .pathname →
      special = (values.protocol = [] || Url.isSpecialScheme values.protocol) ∨
        Encoding.specialPathname raw = Encoding.opaquePathname raw) :
    ∃ w, c.encode (escape (Fields.literal c raw)) special (Fields.literal c raw) = .ok w ∧
      values.get c = if c = .port ∧ Url.defaultPort? values.protocol = some w then [] else w := by
  have hplaced := Fields.placed_of_complete h.base h.asUrl c
  rw [Fields.placed.eq_def, hraw] at hplaced
  obtain ⟨hcheck, w, hw, hvalue⟩ := Fields.encode_of_canonicalValue hplaced
  have hcolon : c = .protocol → raw.getLast? ≠ some ':' := by
    rintro rfl
    exact h.getLast?_protocol hraw
  rw [Fields.encode_completed hcolon fun hc => h.coherent.search raw (hc ▸ hraw)] at hw
  refine ⟨w, ?_, hvalue⟩
  rw [← hw]
  refine Component.encode_congr ?_ ?_
  · rintro rfl
    exact Encoding.looksLikeIpv6_escape fun hlooks => hcheck ⟨rfl, hlooks⟩
  · rintro rfl
    exact hspecial rfl

/-! ### The protocol -/

/-- A given protocol in the URL, in the patterns, and what its pattern matches. -/
theorem protocol_of_some (h : Readings f ignoreCase values patterns m)
    (hraw : f.get? .protocol = some raw) :
    values.protocol = Text.asciiLower raw ∧ patterns.protocol = escape raw ∧
      ∀ t, m.components.protocol.compiled.isMatch t ↔ t = Text.asciiLower raw := by
  obtain ⟨w, hw, hvalue⟩ := h.value_of_some hraw false nofun
  obtain ⟨-, rfl⟩ := Encoding.protocol_eq_ok_iff.1 hw
  have hpattern := h.pattern_eq_escape hraw
  have hcompiled := (compile_eq_ok_iff.1 h.compiled).2 .protocol
  rw [get_withoutDefaultPort (c := .protocol) nofun, hpattern] at hcompiled
  exact ⟨hvalue, hpattern, ComponentPattern.isMatch_protocol_iff hcompiled hw⟩

/-- The pattern of the protocol matches special schemes if the protocol is one, or is not given. -/
theorem matchesSpecialScheme_protocol (h : Readings f ignoreCase values patterns m)
    (hgiven : f.get? .protocol ≠ some []) :
    m.components.protocol.matchesSpecialScheme =
      (values.protocol = [] || Url.isSpecialScheme values.protocol) := by
  cases hraw : f.get? .protocol with
  | none =>
      have hcompiled := (compile_eq_ok_iff.1 h.compiled).2 .protocol
      rw [get_withoutDefaultPort (c := .protocol) nofun, (h.of_none hraw).2] at hcompiled
      obtain ⟨p, hp, -, hspecial⟩ := ComponentPattern.ofText_wildcard .protocol
        m.components.protocol.matchesSpecialScheme ignoreCase
      obtain rfl := Except.ok.inj (hcompiled.symm.trans hp)
      have hvalue : values.protocol = [] := (h.of_none hraw).1
      rw [hvalue]
      exact hspecial
  | some raw =>
      obtain ⟨hvalue, -, hmatch⟩ := h.protocol_of_some hraw
      have hne : Text.asciiLower raw ≠ [] := fun hnil =>
        hgiven (hraw.trans (congrArg some (List.map_eq_nil_iff.1 hnil)))
      rw [hvalue, ComponentPattern.matchesSpecialScheme_of_isMatch_iff hmatch]
      simp [hne]

/-! ### The port -/

/-- The protocols of the URL and of the patterns have the same port of their own. -/
theorem defaultPort?_protocol (h : Readings f ignoreCase values patterns m) :
    Url.defaultPort? (Text.asciiLower patterns.protocol) = Url.defaultPort? values.protocol := by
  cases hraw : f.get? .protocol with
  | none =>
      have hvalue : values.protocol = [] := (h.of_none hraw).1
      have hpattern : patterns.protocol = wildcard := (h.of_none hraw).2
      rw [hvalue, hpattern]
      decide
  | some raw =>
      obtain ⟨hvalue, hpattern, -⟩ := h.protocol_of_some hraw
      rw [hvalue, hpattern, Url.defaultPort?_escape]

/-- A given port is left out of the URL exactly if it is left out of the patterns. -/
theorem defaultPort?_port_iff {port : Text} (h : Readings f ignoreCase values patterns m)
    (hraw : f.get? .port = some raw) (hport : Encoding.port raw = .ok port) :
    Url.defaultPort? values.protocol = some (escape raw) ↔
      Url.defaultPort? values.protocol = some port := by
  constructor
  · intro hdefault
    obtain ⟨hself, hescape⟩ := Url.port_of_defaultPort? hdefault
    rw [escape_injective hescape] at hdefault hself
    rw [hdefault, Except.ok.inj (hself.symm.trans hport)]
  · intro hdefault
    have hwritten : raw = port := by
      cases hscheme : f.get? .protocol with
      | none =>
          have hvalue : values.protocol = [] := (h.of_none hscheme).1
          rw [hvalue] at hdefault
          cases hdefault
      | some scheme =>
          rw [(h.protocol_of_some hscheme).1] at hdefault
          exact h.coherent.port scheme hscheme raw hraw port hdefault hport
    rw [hdefault, hwritten, (Url.port_of_defaultPort? hdefault).2]

/-- The pattern that a port is escaped to matches the port. -/
theorem isMatch_port (h : Readings f ignoreCase values patterns m)
    (hraw : f.get? .port = some raw) : m.components.port.compiled.isMatch values.port := by
  obtain ⟨w, hw, hvalue⟩ := h.value_of_some hraw false nofun
  have hvalue : values.port = if Url.defaultPort? values.protocol = some w then [] else w :=
    hvalue.trans (by simp only [true_and])
  have hpattern : patterns.port = escape raw := h.pattern_eq_escape hraw
  have hleft := h.defaultPort?_port_iff hraw hw
  have hcompiled : ComponentPattern.ofText .port m.components.protocol.matchesSpecialScheme
      ignoreCase (withoutDefaultPort patterns).port = .ok m.components.port :=
    (compile_eq_ok_iff.1 h.compiled).2 .port
  rw [withoutDefaultPort, h.defaultPort?_protocol, hpattern] at hcompiled
  by_cases hdefault : Url.defaultPort? values.protocol = some w
  · rw [if_pos (hleft.2 hdefault)] at hcompiled
    rw [hvalue, if_pos hdefault]
    exact ComponentPattern.isMatch_ofText_escape (v := []) hcompiled rfl
  · rw [if_neg (mt hleft.1 hdefault), hpattern] at hcompiled
    rw [hvalue, if_neg hdefault]
    exact ComponentPattern.isMatch_ofText_escape hcompiled hw

/-! ### All components -/

/-- The wildcard matches what a component that is not given is in the URL. -/
theorem isMatch_of_none (h : Readings f ignoreCase values patterns m) (hraw : f.get? c = none) :
    (m.components.get c).compiled.isMatch (values.get c) := by
  obtain ⟨hvalue, hpattern⟩ := h.of_none hraw
  have hcompiled := (compile_eq_ok_iff.1 h.compiled).2 c
  rw [get_withoutDefaultPort, hpattern] at hcompiled
  · obtain ⟨p, hp, hmatch, -⟩ := ComponentPattern.ofText_wildcard c
      m.components.protocol.matchesSpecialScheme ignoreCase
    obtain rfl := Except.ok.inj (hcompiled.symm.trans hp)
    rw [hvalue]
    exact hmatch
  · rintro rfl hdefault
    have hwildcard : patterns.port = wildcard := hpattern
    rw [hwildcard] at hdefault
    exact absurd (Url.port_of_defaultPort? hdefault).2 (by decide)

/-- The pattern that a given component is escaped to matches its value. -/
theorem isMatch_of_some (h : Readings f ignoreCase values patterns m)
    (hraw : f.get? c = some raw) : (m.components.get c).compiled.isMatch (values.get c) := by
  by_cases hport : c = .port
  · subst hport
    exact h.isMatch_port hraw
  · have hspecial : c = .pathname → m.components.protocol.matchesSpecialScheme =
        (values.protocol = [] || Url.isSpecialScheme values.protocol) ∨
          Encoding.specialPathname raw = Encoding.opaquePathname raw := by
      rintro rfl
      by_cases hgiven : f.get? .protocol = some []
      · exact .inr (h.coherent.pathname hgiven raw hraw)
      · exact .inl (h.matchesSpecialScheme_protocol hgiven)
    obtain ⟨w, hw, hvalue⟩ := h.value_of_some hraw _ hspecial
    have hcompiled := (compile_eq_ok_iff.1 h.compiled).2 c
    rw [get_withoutDefaultPort fun hc => absurd hc hport, h.pattern_eq_escape hraw] at hcompiled
    rw [hvalue, if_neg fun hc => hport hc.1]
    exact ComponentPattern.isMatch_ofText_escape hcompiled hw

end Readings

/-- **A URL pattern made of literals matches the fields it was made from.** -/
theorem test_escaped (hbase : f.base = none) (hcoherent : f.Coherent)
    (hurl : f.complete .url (.replicate []) = .ok values)
    (hm : ofFields f.escaped ignoreCase = .ok m) : m.test (.fields f) none := by
  obtain ⟨patterns, hpatterns, hcompiled⟩ := bind_eq_ok.1 hm
  have hreadings : Readings f ignoreCase values patterns m :=
    ⟨hbase, hcoherent, hurl, hpatterns, hcompiled⟩
  rw [test, resolve?, hurl]
  refine List.all_eq_true.2 fun c _ => ?_
  cases hraw : f.get? c with
  | none => exact hreadings.isMatch_of_none hraw
  | some raw => exact hreadings.isMatch_of_some hraw

/-- `test_escaped` at fields with capitals, a port, segments to resolve, blanks, marks and signs. -/
theorem test_escaped_of_marks :
    let f : Fields := ⟨⟨some "HTTP".toList, some "a b".toList, none, some "EXAMPLE.com".toList,
      some "08080".toList, some "/a/../b c".toList, some "?q=(1)?".toList, some "#x*".toList⟩, none⟩
    f.base = none ∧ f.Coherent ∧ ∃ values m, f.complete .url (.replicate []) = .ok values ∧
      values.pathname = "/b%20c".toList ∧ ofFields f.escaped true = .ok m ∧
        m.test (.fields f) none := by
  intro f
  have hcoherent : f.Coherent := ⟨by decide +kernel, by decide +kernel, by decide +kernel⟩
  have hurl : (f.complete .url (.replicate [])).toOption.map (·.pathname) =
      some "/b%20c".toList := by
    decide +kernel
  have hm : (ofFields f.escaped true).toOption.isSome := by decide +kernel
  obtain ⟨values, hvalues, hpathname⟩ := Option.map_eq_some_iff.1 hurl
  obtain ⟨m, hm⟩ := Option.isSome_iff_exists.1 hm
  rw [toOption_eq_some] at hvalues hm
  exact ⟨rfl, hcoherent, values, m, hvalues, hpathname, hm, test_escaped rfl hcoherent hvalues hm⟩

/-- **A port that is the protocol's own, but is not written as that**, is left out of the URL and
not of the pattern. -/
theorem not_test_escaped_of_port :
    let f : Fields :=
      ⟨⟨some "https".toList, none, none, none, some "0443".toList, none, none, none⟩, none⟩
    f.base = none ∧ ∃ values m, f.complete .url (.replicate []) = .ok values ∧
      ofFields f.escaped false = .ok m ∧ m.test (.fields f) none = false := by
  intro f
  have hurl : (f.complete .url (.replicate [])).toOption.isSome := by decide +kernel
  have hm : (ofFields f.escaped false).toOption.map (·.test (.fields f) none) = some false := by
    decide +kernel
  obtain ⟨values, hvalues⟩ := Option.isSome_iff_exists.1 hurl
  obtain ⟨m, hm, htest⟩ := Option.map_eq_some_iff.1 hm
  rw [toOption_eq_some] at hvalues hm
  exact ⟨rfl, values, m, hvalues, hm, htest⟩

end Matcher

end UrlMatch
