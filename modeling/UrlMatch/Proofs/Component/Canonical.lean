import UrlMatch.Proofs.Component.Compile
import UrlMatch.Proofs.Component.Encoding
import UrlMatch.Proofs.Pattern.Blank
import UrlMatch.Proofs.Pattern.Escape
import UrlMatch.Proofs.Pattern.OpeningBracket

/-!
# Canonical patterns of components

The canonical text of a component's pattern stands for the same component, as far as it tells
everything about the parts that it was written for. Its fixed texts are brought into their
canonical form once more, which changes nothing, and whether it looks like an IPv6 address, which
decides about the encoder of a host name, is the same as for the pattern itself.

## Main results

* `looksLikeIpv6_render`: the canonical text looks like an IPv6 address if the pattern does.
* `ofText_pattern`: the canonical text of a pattern stands for the same component.
* `not_ofText_pattern_of_mark`: it does not if a mark is left in front of a query.
-/

namespace UrlMatch

open Pattern

/-! ### What looks like an IPv6 address -/

namespace Encoding

/-- A lone bracket does not look like an IPv6 address. -/
theorem looksLikeIpv6_iff {t : Text} : looksLikeIpv6 t ↔ opensBracket t ∧ t ≠ ['['] := by
  match t with
  | [] => decide
  | [c] =>
      have hopens : opensBracket [c] ↔ c = '[' := by
        rw [opensBracket.eq_def]
        split <;> simp_all
      rw [hopens]
      simp [looksLikeIpv6]
  | c :: c' :: t =>
      rw [looksLikeIpv6.eq_def, opensBracket.eq_def]
      split <;> split <;> simp_all
      rename_i hcons heq
      exact absurd heq.2.symm (hcons c' t)

/-- Where the brackets of a text are in order, an opening one has its counterpart. -/
theorem mem_of_checkBrackets {t : Text} (h : checkBrackets t = .ok ()) (ht : '[' ∈ t) :
    ']' ∈ t := by
  have hopening : '[' ∈ t.filter isBracket := List.mem_filter.2 ⟨ht, rfl⟩
  rcases checkBrackets_eq_ok_iff.1 h with hnone | hpair
  · rw [hnone] at hopening
    cases hopening
  · exact List.mem_of_mem_filter (p := isBracket) (by simp [hpair])

/-- An encoded piece of an IPv6 address begins with a bracket if the piece does. -/
theorem head?_ipv6Hostname {t v : Text} (h : ipv6Hostname t = .ok v) (ht : t.head? = some '[') :
    v.head? = some '[' := by
  obtain ⟨-, rfl⟩ := ipv6Hostname_eq_ok_iff.1 h
  obtain ⟨t, rfl⟩ := List.head?_eq_some_iff.1 ht
  rfl

end Encoding

namespace Component

variable {c : Component} {raw raw' v w : Text} {special : Bool}

/-- The empty text is the canonical form of itself. -/
theorem encode_nil (c : Component) (raw : Text) (special : Bool) :
    c.encode raw special [] = .ok [] := by
  cases c with
  | hostname =>
      rw [encode]
      split <;> rfl
  | pathname => cases special <;> rfl
  | _ => rfl

/-- The canonical form of a text is what the encoder of the component gives, for the empty text
too. -/
theorem canonical_eq_ok_iff :
    (c.readOptions raw special).canonical v = .ok w ↔ c.encode raw special v = .ok w := by
  have hencode : (c.readOptions raw special).encode = c.encode raw special := rfl
  rw [ReadOptions.canonical, hencode]
  split
  · rename_i hv
    rw [hv, encode_nil]
    exact ⟨fun h => congrArg _ (Except.ok.inj h), fun h => congrArg _ (Except.ok.inj h)⟩
  · cases c.encode raw special v <;> simp

/-- Plainly, all components read alike but for delimiters and leads. -/
theorem plain_readOptions (c : Component) (raw raw' : Text) (special : Bool) :
    (c.readOptions raw' special).plain = (c.readOptions raw special).plain := rfl

theorem neutral_readOptions (c : Component) (raw : Text) (special : Bool) :
    (c.readOptions raw special).plain.Neutral := by
  refine ⟨fun _ => rfl, fun ch hch => ?_⟩
  have hmem : ch ∈ defaultLeads := by
    rw [readOptions] at hch
    by_cases hc : c = hostname
    · simp [hc, ReadOptions.plain, ReadOptions.hostname] at hch
    · simpa [hc, ReadOptions.plain, ReadOptions.default] using hch
  exact ReadOptions.neutral_default.leads ch hmem

/-- Every component matches whole texts. -/
theorem fromStart_matchOptions (c : Component) (ignoreCase : Bool) :
    (c.matchOptions ignoreCase).fromStart := by
  rw [matchOptions]
  split <;> rfl

theorem toEnd_matchOptions (c : Component) (ignoreCase : Bool) :
    (c.matchOptions ignoreCase).toEnd := by
  rw [matchOptions]
  split <;> rfl

end Component

namespace Pattern

variable {o : ReadOptions} {v : Text} {q : Part} {ch : Char}

/-- The characters of the fixed texts occur in what is written for a part. -/
theorem mem_render_of_mem_texts (hv : v ∈ q.texts) (hch : ch ∈ v)
    (previous next : Option Part) : ch ∈ q.render o previous next := by
  have hescape := mem_escape hch
  cases q with
  | fixed value m =>
      obtain rfl := List.mem_singleton.1 hv
      cases m <;> simp [Part.render, hescape]
  | capture cap =>
      have hbody (braced : Bool) : ch ∈ cap.renderBody o braced previous := by
        simp only [Part.texts, List.mem_cons, List.not_mem_nil, or_false] at hv
        rcases hv with rfl | rfl <;> simp [Capture.renderBody, hescape]
      rw [Part.render, Capture.render]
      split <;> simp [hbody]

end Pattern

namespace ComponentPattern

variable {c : Component} {special ignoreCase : Bool} {pattern v : Text} {o : ReadOptions}
  {ps : List Part} {p : ComponentPattern}

/-! ### The brackets of a host name -/

/-- The fixed texts of all parts, character by character. -/
theorem mem_fixedText_iff {ch : Char} :
    ch ∈ fixedText ps ↔ ∃ q ∈ ps, ∃ v ∈ q.texts, ch ∈ v := by
  rw [fixedText, List.mem_flatMap]
  refine exists_congr fun q => and_congr_right fun _ => ?_
  cases q <;> simp [Part.texts]

/-- The characters of the fixed texts occur in the canonical text. -/
theorem mem_render_of_mem_fixedText {ch : Char} (h : ch ∈ fixedText ps) : ch ∈ render o ps := by
  obtain ⟨q, hq, v, hv, hch⟩ := mem_fixedText_iff.1 h
  have hfrom : ∀ (previous : Option Part), ch ∈ renderFrom o previous ps := by
    clear h
    induction ps with
    | nil => cases hq
    | cons p ps ih =>
        intro previous
        rw [renderFrom, List.mem_append]
        rcases List.mem_cons.1 hq with rfl | hq
        · exact .inl (mem_render_of_mem_texts hv hch _ _)
        · exact .inr (ih hq _)
  exact hfrom none

theorem fixedText_withoutBlank (ps : List Part) : fixedText (withoutBlank ps) = fixedText ps :=
  flatMap_withoutBlank rfl

theorem hasRegexpGroup_withoutBlank (ps : List Part) :
    hasRegexpGroup (withoutBlank ps) = hasRegexpGroup ps := by
  induction ps with
  | nil => rfl
  | cons q ps ih =>
      rw [withoutBlank_cons]
      split
      · rename_i hq
        rw [isBlank_iff.1 hq, ih]
        rfl
      · simp only [hasRegexpGroup, List.any_cons] at ih ⊢
        rw [ih]

/-- The parts of an IPv6 address begin with a bracket, and so does their canonical text. -/
theorem looksLikeIpv6_of_ipv6 (hip : Encoding.looksLikeIpv6 pattern)
    (h : parts .hostname pattern (Component.readOptions .hostname pattern special) = .ok ps) :
    Encoding.looksLikeIpv6 (render (Component.readOptions .hostname pattern special) ps) := by
  obtain ⟨hparse, hcheck⟩ := parts_eq_ok_iff.1 h
  have hopens : ps.head?.any Part.opens := by
    refine opens_of_parse rfl (fun s v hv hs => ?_) (Encoding.looksLikeIpv6_iff.1 hip).1 hparse
    rw [Component.canonical_eq_ok_iff, Component.encode, if_pos hip] at hv
    exact Encoding.head?_ipv6Hostname hv hs
  refine Encoding.looksLikeIpv6_iff.2 ⟨opensBracket_render rfl hopens, fun hlone => ?_⟩
  obtain ⟨q, hq, hqopens⟩ := (Option.any_eq_true _ _).1 hopens
  have hopening : '[' ∈ fixedText ps :=
    mem_fixedText_iff.2 ⟨q, List.mem_of_mem_head? hq, mem_texts_of_opens hqopens⟩
  have hmem := mem_render_of_mem_fixedText (o := Component.readOptions .hostname pattern special)
    (Encoding.mem_of_checkBrackets (hcheck ⟨rfl, hip⟩) hopening)
  rw [hlone] at hmem
  exact absurd hmem (by decide)

/-- The canonical text of a domain name, if it is read back, does not begin with a bracket. -/
theorem looksLikeIpv6_of_domain (hip : Encoding.looksLikeIpv6 pattern = false)
    (h : parts .hostname pattern (Component.readOptions .hostname pattern special) = .ok ps)
    (hback : parse (Component.readOptions .hostname pattern special).plain
      (render (Component.readOptions .hostname pattern special) ps) = .ok (withoutBlank ps)) :
    Encoding.looksLikeIpv6 (render (Component.readOptions .hostname pattern special) ps) =
      false := by
  by_contra hlooks
  rw [Bool.not_eq_false] at hlooks
  have hopens := opens_of_parse_plain rfl (Encoding.looksLikeIpv6_iff.1 hlooks).1 hback
  obtain ⟨q, hq, hqopens⟩ := (Option.any_eq_true _ _).1 hopens
  obtain ⟨v, hv, hmem⟩ := mem_texts_of_opens hqopens
  have hqps : q ∈ ps := List.mem_of_mem_filter (List.mem_of_mem_head? hq)
  obtain ⟨s, hs⟩ := canonical_of_parse (parts_eq_ok_iff.1 h).1 q hqps v hv
  rw [Component.canonical_eq_ok_iff, Component.encode, hip] at hs
  exact absurd (Encoding.isForbiddenInHost_of_hostname hs _ hmem) (by decide)

/-- **The canonical text looks like an IPv6 address if the pattern does**, provided that it is read
back. -/
theorem looksLikeIpv6_render
    (h : parts .hostname pattern (Component.readOptions .hostname pattern special) = .ok ps)
    (hback : parse (Component.readOptions .hostname pattern special).plain
      (render (Component.readOptions .hostname pattern special) ps) = .ok (withoutBlank ps)) :
    Encoding.looksLikeIpv6 (render (Component.readOptions .hostname pattern special) ps) =
      Encoding.looksLikeIpv6 pattern := by
  cases hip : Encoding.looksLikeIpv6 pattern with
  | true => exact looksLikeIpv6_of_ipv6 hip h
  | false => exact looksLikeIpv6_of_domain hip h hback

/-! ### Compiling the canonical text -/

/-- The canonical text of a pattern with these parts tells everything about them. -/
structure Faithful (c : Component) (o : ReadOptions) (ps : List Part) : Prop where
  /-- No encoder has left nothing of a text that may be absent or repeated. -/
  empty : ∀ m, .fixed [] m ∈ ps → m = .once
  /-- Other texts of which nothing is left make no difference to the canonical text. -/
  blank : render o (withoutBlank ps) = render o ps
  /-- No text begins with the mark that the component's encoder takes away. -/
  unmarked : ∀ p ∈ ps, ∀ v ∈ p.texts, c.Unmarked v

/-- Plainly, the canonical text is read as the parts that stand for something. -/
theorem Faithful.parse_plain (hfaithful : Faithful c (c.readOptions pattern special) ps)
    (hparse : parse (c.readOptions pattern special) pattern = .ok ps) :
    parse (c.readOptions pattern special).plain (render (c.readOptions pattern special) ps) =
      .ok (withoutBlank ps) := by
  have hback := parse_render_withoutBlank (c.neutral_readOptions pattern special) hparse
    hfaithful.empty
  rwa [hfaithful.blank] at hback

/-- The canonical text has the parts of the pattern that stand for something: its fixed texts are
canonical already, under the encoder that the canonical text calls for. -/
theorem Faithful.parts_render (hfaithful : Faithful c (c.readOptions pattern special) ps)
    (hps : parts c pattern (c.readOptions pattern special) = .ok ps) :
    parts c (render (c.readOptions pattern special) ps)
        (c.readOptions (render (c.readOptions pattern special) ps) special) =
      .ok (withoutBlank ps) := by
  obtain ⟨hparse, hcheck⟩ := parts_eq_ok_iff.1 hps
  have hplain := hfaithful.parse_plain hparse
  have hip : c = .hostname →
      Encoding.looksLikeIpv6 (render (c.readOptions pattern special) ps) =
        Encoding.looksLikeIpv6 pattern := by
    rintro rfl
    exact looksLikeIpv6_render hps hplain
  refine parts_eq_ok_iff.2 ⟨parse_of_canonical hplain fun q hq v hv => ?_, ?_⟩
  · have hqps : q ∈ ps := List.mem_of_mem_filter hq
    obtain ⟨s, hs⟩ := canonical_of_parse hparse q hqps v hv
    exact Component.canonical_eq_ok_iff.2 (Component.encode_of_encode
      (Component.canonical_eq_ok_iff.1 hs) (hfaithful.unmarked q hqps v hv) hip)
  · rintro ⟨hc, hlooks⟩
    rw [fixedText_withoutBlank]
    exact hcheck ⟨hc, hip hc ▸ hlooks⟩

/-- The parts that stand for something are written as the canonical text, whatever text the options
are made for. -/
theorem Faithful.render_withoutBlank (hfaithful : Faithful c (c.readOptions pattern special) ps)
    (raw : Text) :
    render (c.readOptions raw special) (withoutBlank ps) =
      render (c.readOptions pattern special) ps := by
  rw [render, ← renderFrom_plain, c.plain_readOptions pattern raw, renderFrom_plain, ← render,
    hfaithful.blank]

/-- **The canonical text of a pattern stands for the same component**: the regular expression, the
keys of the captures and the canonical text are the same. -/
theorem ofText_pattern (hps : parts c pattern (c.readOptions pattern special) = .ok ps)
    (hfaithful : Faithful c (c.readOptions pattern special) ps)
    (h : ofText c special ignoreCase pattern = .ok p) :
    ofText c special ignoreCase p.pattern = .ok p := by
  obtain ⟨_, compiled, hps', hcompiled, rfl⟩ := compile_eq_ok_iff.1 h
  obtain rfl := Except.ok.inj (hps.symm.trans hps')
  refine compile_eq_ok_iff.2 ⟨withoutBlank ps, compiled, hfaithful.parts_render hps, ?_, ?_⟩
  · rw [compile_withoutBlank (c.toEnd_matchOptions ignoreCase), hcompiled]
  · rw [hfaithful.render_withoutBlank, hasRegexpGroup_withoutBlank]

/-- `ofText_pattern` at a path that is resolved, encoded and cut in front of a capture. -/
theorem ofText_pattern_of_path :
    let pattern := "/b/../A B/:id".toList
    let ps := [.fixed "/A%20B".toList .once,
      .capture ⟨.named "id".toList, ['/'], [], .segment, .once⟩]
    parts .pathname pattern (Component.readOptions .pathname pattern true) = .ok ps ∧
      Faithful .pathname (Component.readOptions .pathname pattern true) ps ∧
      ∃ p, ofText .pathname true false pattern = .ok p ∧ p.pattern = "/A%20B/:id".toList ∧
        ofText .pathname true false p.pattern = .ok p := by
  intro pattern ps
  have hps : parts .pathname pattern (Component.readOptions .pathname pattern true) = .ok ps := by
    decide +kernel
  have hfaithful : Faithful .pathname (Component.readOptions .pathname pattern true) ps :=
    ⟨by simp [ps], by decide +kernel, by decide +kernel⟩
  have hwritten : (ofText .pathname true false pattern).toOption.map (·.pattern) =
      some "/A%20B/:id".toList := by
    decide +kernel
  obtain ⟨p, hp, hpattern⟩ := Option.map_eq_some_iff.1 hwritten
  rw [toOption_eq_some] at hp
  exact ⟨hps, hfaithful, p, hp, hpattern, ofText_pattern hps hfaithful hp⟩

/-- **A mark in front of a canonical text is lost**: `\?\?a` in a query is the canonical text `\?a`,
and this in turn is `a`, with another regular expression. -/
theorem not_ofText_pattern_of_mark :
    ∃ p q, ofText .search false false "\\?\\?a".toList = .ok p ∧
      ofText .search false false p.pattern = .ok q ∧ p.pattern ≠ q.pattern ∧
      p.compiled.source ≠ q.compiled.source := by
  have hfirst : (ofText .search false false "\\?\\?a".toList).toOption.map
      (fun p => (p.pattern, p.compiled.source)) =
        some ("\\?a".toList, "^\\?a$".toList) := by
    decide +kernel
  have hsecond : (ofText .search false false "\\?a".toList).toOption.map
      (fun p => (p.pattern, p.compiled.source)) = some ("a".toList, "^a$".toList) := by
    decide +kernel
  obtain ⟨p, hp, hpattern⟩ := Option.map_eq_some_iff.1 hfirst
  obtain ⟨q, hq, hqpattern⟩ := Option.map_eq_some_iff.1 hsecond
  rw [toOption_eq_some] at hp hq
  obtain ⟨hp', hpsource⟩ := Prod.mk.inj hpattern
  obtain ⟨hq', hqsource⟩ := Prod.mk.inj hqpattern
  refine ⟨p, q, hp, by rwa [hp'], ?_, ?_⟩
  · rw [hp', hq']
    decide
  · rw [hpsource, hqsource]
    decide

end ComponentPattern

end UrlMatch
