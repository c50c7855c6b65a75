import UrlMatch.Proofs.Pattern.Escape
import UrlMatch.Proofs.Pattern.Language
import UrlMatch.Proofs.Pattern.RoundTrip

/-!
# Patterns that are a literal text or an asterisk

An escaped text is a pattern without captures: it is read as the text itself, in its canonical
form, and matches that. Where case makes a difference it matches nothing else, up to what is
tolerated behind the end. An asterisk is read as a wildcard.

## Main results

* `parse_escape`: what an escaped text is read as.
* `isMatch_literal_iff`: a literal matches its text only, up to what is tolerated behind the end.
* `isMatch_literal_self`: however it is compiled, a literal matches its text.
* `parse_asterisk`: what an asterisk is read as.
-/

namespace UrlMatch.Pattern

open Regex

/-! ### Reading a literal -/

/-- **An escaped text is read as one fixed text.** -/
theorem parse_escape (o : ReadOptions) (v : Text) : parse o (escape v) = gathered o v := by
  have hspells : Spells (textItems v ++ []) (escape v ++ []) := spells_textItems v .nil
  rw [List.append_nil (escape v)] at hspells
  rw [parse_of_spells o hspells, partsOf_textItems (by simp), List.nil_append,
    partsOf]

/-- What an escaped text is read as is its canonical form. -/
theorem canonical_of_parse_escape {o : ReadOptions} {v w : Text}
    (h : parse o (escape v) = .ok [.fixed w .once]) : o.canonical v = .ok w := by
  rw [parse_escape, gathered] at h
  split at h
  · cases h
  · obtain ⟨w', hw', hw⟩ := bind_eq_ok.1 h
    cases hw
    exact hw'

/-- A text without special characters needs no escaping. -/
theorem escape_eq_self {v : Text} (h : ∀ c ∈ v, isSpecial c = false) : escape v = v := by
  induction v with
  | nil => rfl
  | cons c v ih =>
      obtain ⟨hc, hv⟩ := List.forall_mem_cons.1 h
      rw [escape_cons_plain hc, ih hv]

/-- What gathers from a text is the literal of its canonical form. -/
theorem gathered_eq_literalParts {o : ReadOptions} {v w : Text} (h : o.canonical v = .ok w)
    (hnil : w = [] → v = []) : gathered o v = .ok (literalParts w) := by
  rw [gathered, literalParts]
  split
  · rename_i hv
    subst hv
    cases h
    rfl
  · rename_i hv
    rw [if_neg fun hw => hv (hnil hw), h]
    rfl

/-- What an escaped text was can be told from it. -/
theorem escape_injective : Function.Injective escape := by
  intro v w h
  have hread (t : Text) : parse .default (escape t) = .ok (literalParts t) := by
    rw [parse_escape]
    exact gathered_eq_self (fun _ => rfl) t
  have hparts : literalParts v = literalParts w :=
    Except.ok.inj ((hread v).symm.trans (h ▸ hread w))
  rw [literalParts, literalParts] at hparts
  split at hparts <;> split at hparts <;> simp_all

/-! ### Matching a literal -/

theorem noCustom_literalParts (v : Text) : NoCustom (literalParts v) := by
  rw [literalParts]
  split
  · exact List.forall_mem_nil _
  · simp [NoCustom, Part.capture?]

theorem mem_languageOf_literalParts {d v w : Text} : w ∈ languageOf d (literalParts v) ↔ w = v := by
  rw [literalParts]
  split
  · rename_i hv
    rw [hv]
    exact Language.mem_one w
  · have hlanguage : languageOf d [.fixed v .once] = {v} := by
      simp [languageOf, Part.language_once]
    rw [hlanguage]
    exact Set.mem_singleton_iff

/-- **A literal matches its text**, up to what is tolerated behind the end, where case makes a
difference. -/
theorem isMatch_literal_iff {o : MatchOptions} (hsensitive : o.sensitive) (hstart : o.fromStart)
    (hend : o.toEnd) (v : Text) :
    ∃ c, compile o (literalParts v) = .ok c ∧
      ∀ h, c.isMatch h ↔ ∃ t, h = v ++ t ∧ o.Tolerates t := by
  obtain ⟨r, hcompile, hr⟩ := compile_of_noCustom hsensitive hend (noCustom_literalParts v)
  refine ⟨_, hcompile, fun h => (isMatch_iff_of_ways (hr h)).trans ⟨?_, ?_⟩⟩
  · rintro ⟨a, m, t, rfl, hm, ha, ht⟩
    rw [mem_languageOf_literalParts] at hm
    exact ⟨t, by rw [ha hstart, hm, List.nil_append], ht⟩
  · rintro ⟨t, rfl, ht⟩
    exact ⟨[], v, t, by rw [List.nil_append], mem_languageOf_literalParts.2 rfl, fun _ => rfl, ht⟩

/-- Nothing is tolerated where matching is strict. -/
theorem exists_tolerated_iff {o : MatchOptions} (hstrict : o.strict) {h v : Text} :
    (∃ t, h = v ++ t ∧ o.Tolerates t) ↔ h = v := by
  simp [MatchOptions.Tolerates, hstrict]

/-- Behind the parts the end of the input is passed, whatever else is tolerated there. -/
theorem denotes_closing_end {o : MatchOptions} (hend : o.toEnd) (b : Bool) (parts : List Part) :
    ∃ W : Text → Nat → Way, Denotes b (o.closing parts) 0 W ∧
      ∀ t k, W t k t.length t.length [] := by
  have hlook := DenotesAtom.endText (b := b).denotes
  have hpassed (t : Text) : Matches t (.look .endText) t.length t.length [] :=
    (matches_endText (Nat.le_refl _)).2 ⟨rfl, rfl, rfl⟩
  rw [MatchOptions.closing, delimiterClass?]
  by_cases hd : o.delimiters = []
  · exact ⟨_, by simpa [hend, hd] using hlook, fun t _ => hpassed t⟩
  · cases o.strict with
    | true => exact ⟨_, by simpa [hend, hd] using hlook, fun t _ => hpassed t⟩
    | false =>
        have hclass := (denotesAtom_class (b := b) hd).optional.append hlook
        refine ⟨_, by simpa [hend, hd] using hclass, fun t k => ?_⟩
        exact ⟨t.length, [], [], ⟨0, Nat.zero_le 1, rfl, rfl⟩, hpassed t, rfl⟩

/-- A text is a variant of itself. -/
theorem mem_variantsOf_self (b : Bool) (v : Text) : v ∈ variantsOf b v := by
  induction v with
  | nil => exact Language.nil_mem_one
  | cons c v ih =>
      rw [variantsOf_cons]
      refine Language.append_mem_mul (a := [c]) ⟨c, ?_, rfl⟩ ih
      cases b with
      | false => simp [Flags.fold, Flags.plain]
      | true =>
          have hself : c.toNat ∈ Unicode.variants c.toNat := Unicode.mem_variants_self _
          simpa [Flags.fold, Flags.plain, Flags.initial, CharClass.holds] using hself

/-- The way of a literal passes its text. -/
theorem way_literalParts (b : Bool) (d v : Text) (k : Nat) :
    waysOf b d (literalParts v) v k 0 v.length [] := by
  rw [literalParts]
  split
  · rename_i hv
    subst hv
    exact ⟨rfl, rfl⟩
  · have htext : (Part.fixed v .once).way b d v k = .text v (variantsOf b v) := by
      rw [Part.way, ← Way.text_repeated, Modifier.allows_once, counted_eq_one]
    have hpassed : Way.text v (variantsOf b v) 0 v.length [] :=
      ⟨⟨v, mem_variantsOf_self b v, List.prefix_refl v, (Nat.zero_add _).symm⟩, rfl⟩
    exact ⟨v.length, [], [], htext ▸ hpassed, ⟨rfl, rfl⟩, rfl⟩

/-- **However it is compiled, a literal matches its text.** -/
theorem isMatch_literal_self {o : MatchOptions} (hend : o.toEnd) (v : Text) :
    ∃ c, compile o (literalParts v) = .ok c ∧ c.isMatch v := by
  obtain ⟨W, hclosing, hW⟩ := denotes_closing_end hend (!o.sensitive) (literalParts v)
  obtain ⟨r, hcompile, hr⟩ := compile_of_closing (noCustom_literalParts v) hclosing
  refine ⟨_, hcompile, isMatch_program_iff.2 ⟨0, Nat.zero_le _, v.length, [], ?_⟩⟩
  have hstartWay : o.startWay v 0 0 [] :=
    (MatchOptions.startWay_iff (Nat.zero_le _)).2 ⟨rfl, rfl, fun _ => rfl⟩
  have hway := way_literalParts (!o.sensitive) o.delimiters v 0
  exact hr v ▸ ⟨v.length, [], [], ⟨0, [], [], hstartWay, hway, rfl⟩, hW v _, rfl⟩

/-! ### Asterisks -/

/-- The pattern that is an asterisk is a single wildcard. -/
theorem parse_asterisk (o : ReadOptions) :
    parse o ['*'] = .ok [.capture ⟨.ordinal 0, [], [], .wildcard, .once⟩] := by
  have hspells : Spells [.bare (.regexp wildcardRegexp) .once] ['*'] :=
    .bare (t := []) .asterisk trivial (fun _ => rfl) .nil
  rw [parse_of_spells o hspells]
  rfl

end UrlMatch.Pattern
