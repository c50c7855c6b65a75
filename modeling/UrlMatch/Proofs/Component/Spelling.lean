import UrlMatch.Proofs.Component.Canonical

/-!
# Spellings of a component's pattern

The same parts can be written in many ways: with backslashes, in braces, with empty groups between
them. The spelling of a component's pattern makes no difference, but for a host name. Whether that
is an IPv6 address is not seen from its parts but from its first characters, and not every spelling
of a bracket counts. The parts of a spelling that does not are refused, as there is no bracket in a
domain name.

## Main results

* `toOption_ofText_congr`: spellings that look alike are compiled alike.
* `ofText_hostname_ne_ok`: a bracket that is not seen is refused.
* `ofText_hostname_of_spellings`: **what the spelling of a host name decides**.
-/

namespace UrlMatch

open Pattern

namespace Pattern

variable {o : ReadOptions} {s t : Text} {ps : List Part}

/-- What is plainly read alike is read alike under any encoder. -/
theorem parse_eq_ok_congr (hs : parse o.plain s = .ok ps) (ht : parse o.plain t = .ok ps)
    {qs : List Part} : parse o s = .ok qs ↔ parse o t = .ok qs := by
  rw [parse_eq_ok_iff (t := s), parse_eq_ok_iff (t := t), hs, ht]

end Pattern

namespace ComponentPattern

variable {c : Component} {special ignoreCase : Bool} {s t : Text} {ps : List Part}
  {p q : ComponentPattern}

/-- Of the whole text, only whether it looks like an IPv6 address is known to the options. -/
theorem readOptions_congr (hlooks : c = .hostname →
    Encoding.looksLikeIpv6 s = Encoding.looksLikeIpv6 t) (special : Bool) :
    c.readOptions s special = c.readOptions t special := by
  cases c with
  | hostname =>
      rw [Component.readOptions, Component.readOptions, Component.encode, Component.encode,
        hlooks rfl]
  | _ => rfl

/-- **Spellings that look alike are compiled alike**: to the same regular expression, the same keys
and the same canonical text, or not at all. -/
theorem ofText_eq_ok_congr (hs : parse (c.readOptions s special).plain s = .ok ps)
    (ht : parse (c.readOptions s special).plain t = .ok ps)
    (hlooks : c = .hostname → Encoding.looksLikeIpv6 s = Encoding.looksLikeIpv6 t) :
    ofText c special ignoreCase s = .ok p ↔ ofText c special ignoreCase t = .ok p := by
  have hparts (qs : List Part) : parts c s (c.readOptions s special) = .ok qs ↔
      parts c t (c.readOptions s special) = .ok qs := by
    rw [parts_eq_ok_iff, parts_eq_ok_iff, parse_eq_ok_congr hs ht]
    refine and_congr_right fun _ => ?_
    by_cases hc : c = .hostname
    · rw [hlooks hc]
    · simp [hc]
  rw [ofText, ofText, ← readOptions_congr hlooks special, compile_eq_ok_iff, compile_eq_ok_iff]
  simp only [hparts]

/-- **A bracket that is not seen is refused**: if another spelling of a host name looks like an IPv6
address, it does not compile unless it looks like one itself. -/
theorem ofText_hostname_ne_ok (hs : parse .hostname s = .ok ps) (ht : parse .hostname t = .ok ps)
    (hlooks : Encoding.looksLikeIpv6 s) (hplain : Encoding.looksLikeIpv6 t = false) :
    ofText .hostname special ignoreCase t ≠ .ok p := by
  intro hp
  rw [ofText, compile_eq_ok_iff] at hp
  obtain ⟨qs, compiled, hqs, -, -⟩ := hp
  obtain ⟨ps', hps', hall⟩ := parse_eq_ok_iff.1 (parts_eq_ok_iff.1 hqs).1
  obtain rfl : ps = ps' := Except.ok.inj (ht.symm.trans hps')
  have hopens := opens_of_parse_plain (o := .hostname) rfl (Encoding.looksLikeIpv6_iff.1 hlooks).1
    hs
  obtain ⟨q, hq, hqopens⟩ := (Option.any_eq_true _ _).1 hopens
  obtain ⟨v, hv, hbracket⟩ := mem_texts_of_opens hqopens
  obtain ⟨w, hw⟩ :=
    (forall₂_recodes_iff.1 hall).1 q (List.mem_of_mem_head? hq) v hv (List.ne_nil_of_mem hbracket)
  have hhostname : Encoding.hostname v = .ok w := by
    have hencode : Component.encode .hostname t special v = .ok w := hw
    rwa [Component.encode, hplain] at hencode
  exact absurd (Encoding.allowed_of_hostname hhostname _ hbracket) (by decide)

/-- **What the spelling of a host name decides.** Spellings that are read as the same parts compile
together if both look like an IPv6 address, or none does. If only one of them does, the other one
does not compile. So they are compiled to the same pattern, if both are. -/
theorem ofText_hostname_of_spellings (hs : parse .hostname s = .ok ps)
    (ht : parse .hostname t = .ok ps) (special ignoreCase : Bool) :
    (Encoding.looksLikeIpv6 s = Encoding.looksLikeIpv6 t →
      ((∃ p, ofText .hostname special ignoreCase s = .ok p) ↔
        ∃ q, ofText .hostname special ignoreCase t = .ok q)) ∧
    (Encoding.looksLikeIpv6 s → Encoding.looksLikeIpv6 t = false →
      ¬∃ q, ofText .hostname special ignoreCase t = .ok q) ∧
    ∀ p q, ofText .hostname special ignoreCase s = .ok p →
      ofText .hostname special ignoreCase t = .ok q → p = q := by
  have hcongr (hlooks : Encoding.looksLikeIpv6 s = Encoding.looksLikeIpv6 t)
      (p : ComponentPattern) : ofText .hostname special ignoreCase s = .ok p ↔
        ofText .hostname special ignoreCase t = .ok p :=
    ofText_eq_ok_congr hs ht fun _ => hlooks
  refine ⟨fun hlooks => exists_congr (hcongr hlooks), fun hlooks hplain ⟨q, hq⟩ => ?_,
    fun p q hp hq => ?_⟩
  · exact ofText_hostname_ne_ok hs ht hlooks hplain hq
  · by_cases hlooks : Encoding.looksLikeIpv6 s = Encoding.looksLikeIpv6 t
    · exact Except.ok.inj (((hcongr hlooks p).1 hp).symm.trans hq)
    · cases hip : Encoding.looksLikeIpv6 s with
      | true => exact absurd hq (ofText_hostname_ne_ok hs ht hip (by simpa [hip] using hlooks))
      | false => exact absurd hp (ofText_hostname_ne_ok ht hs (by simpa [hip] using hlooks) hip)

/-- An address with a bracket behind a backslash or not, and with a group or not. -/
theorem ofText_hostname_of_group :
    let s := "\\[\\:\\:1\\]".toList
    let t := "[\x7b\\:\\:1\x7d\\]".toList
    ∃ ps p, parse .hostname s = .ok ps ∧ parse .hostname t = .ok ps ∧
      ofText .hostname false false s = .ok p ∧ ofText .hostname false false t = .ok p := by
  intro s t
  have hs : parse .hostname s = .ok [.fixed "[::1]".toList .once] := by decide +kernel
  have ht : parse .hostname t = .ok [.fixed "[::1]".toList .once] := by decide +kernel
  have hp : (ofText .hostname false false s).toOption.isSome := by decide +kernel
  obtain ⟨p, hp⟩ := Option.isSome_iff_exists.1 hp
  rw [toOption_eq_some] at hp
  obtain ⟨hboth, -, hsame⟩ := ofText_hostname_of_spellings hs ht false false
  obtain ⟨q, hq⟩ := (hboth (by decide)).1 ⟨p, hp⟩
  exact ⟨_, p, hs, ht, hp, hsame p q hp hq ▸ hq⟩

/-- **A bracket behind a backslash in braces is not seen**, so that this spelling of an address does
not compile. -/
theorem not_ofText_hostname_of_braces :
    let s := "\\[\\:\\:1\\]".toList
    let t := "\x7b\\[\\:\\:1\\]\x7d".toList
    ∃ ps, parse .hostname s = .ok ps ∧ parse .hostname t = .ok ps ∧
      (∃ p, ofText .hostname false false s = .ok p) ∧
      ¬∃ q, ofText .hostname false false t = .ok q := by
  intro s t
  have hs : parse .hostname s = .ok [.fixed "[::1]".toList .once] := by decide +kernel
  have ht : parse .hostname t = .ok [.fixed "[::1]".toList .once] := by decide +kernel
  have hp : (ofText .hostname false false s).toOption.isSome := by decide +kernel
  have hq : (ofText .hostname false false t).toOption.isNone := by decide +kernel
  obtain ⟨p, hp⟩ := Option.isSome_iff_exists.1 hp
  refine ⟨_, hs, ht, ⟨p, toOption_eq_some.1 hp⟩, fun ⟨q, hok⟩ => ?_⟩
  rw [hok] at hq
  cases hq

end ComponentPattern

end UrlMatch
