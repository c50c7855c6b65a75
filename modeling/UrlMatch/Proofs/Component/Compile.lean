import UrlMatch.Component.Pattern
import UrlMatch.Proofs.Pattern.Literal

/-!
# Compiling the pattern of a component

Compiling a component's pattern is reading it, checking the brackets of an IPv6 address, and
compiling what was read. Each of these steps can fail, and the result is determined by the parts
that were read. For a literal the parts are known.

## Main results

* `ComponentPattern.compile_eq_ok_iff`: the steps of compiling.
* `ComponentPattern.exists_ofText_literal`: a protocol or a port that is a literal.
* `ComponentPattern.exists_ofText_protocol`: the pattern that is a scheme matches this scheme only.
-/

namespace UrlMatch.ComponentPattern

open Pattern

variable {c : Component} {pattern : Text} {read : ReadOptions} {options : MatchOptions}
  {ps : List Part} {p : ComponentPattern}

/-- The brackets of parts are those of their fixed texts. -/
theorem checkBrackets_eq_ok_iff :
    checkBrackets ps = .ok () ↔ Encoding.checkBrackets (fixedText ps) = .ok () := by
  rw [checkBrackets]
  cases Encoding.checkBrackets (fixedText ps) <;> simp

/-- The parts of a pattern are what is read, if its brackets are in order. -/
theorem parts_eq_ok_iff :
    parts c pattern read = .ok ps ↔ parse read pattern = .ok ps ∧
      (c = .hostname ∧ Encoding.looksLikeIpv6 pattern →
        Encoding.checkBrackets (fixedText ps) = .ok ()) := by
  rw [parts, bind_eq_ok, ← checkBrackets_eq_ok_iff]
  constructor
  · rintro ⟨ps', hparse, h⟩
    split at h
    · obtain ⟨⟨⟩, hcheck, ⟨⟩⟩ := bind_eq_ok.1 h
      exact ⟨hparse, fun _ => hcheck⟩
    · rename_i hip
      cases h
      exact ⟨hparse, fun h => absurd h hip⟩
  · rintro ⟨hparse, hcheck⟩
    refine ⟨ps, hparse, ?_⟩
    split
    · rename_i hip
      rw [hcheck hip]
      rfl
    · rfl

/-- **The steps of compiling.** -/
theorem compile_eq_ok_iff :
    compile c pattern read options = .ok p ↔ ∃ ps compiled, parts c pattern read = .ok ps ∧
      Pattern.compile options ps = .ok compiled ∧
      p = ⟨Pattern.render read ps, compiled, hasRegexpGroup ps⟩ := by
  rw [compile]
  constructor
  · intro h
    split at h
    · rename_i p' hresult
      cases h
      obtain ⟨ps, hps, h⟩ := bind_eq_ok.1 hresult
      obtain ⟨compiled, hcompiled, ⟨⟩⟩ := bind_eq_ok.1 h
      exact ⟨ps, compiled, hps, hcompiled, rfl⟩
    · cases h
  · rintro ⟨ps, compiled, hps, hcompiled, rfl⟩
    simp only [hps, hcompiled, ok_bind]
    rfl

/-! ### Literals -/

/-- A protocol or a port that is read as a literal matches nothing else. -/
theorem exists_ofText_literal {raw v : Text} (hc : c = .protocol ∨ c = .port)
    (special ignoreCase : Bool)
    (h : parse (c.readOptions raw special) raw = .ok (literalParts v)) :
    ∃ p, ofText c special ignoreCase raw = .ok p ∧ ∀ t, p.compiled.isMatch t ↔ t = v := by
  obtain ⟨hsensitive, hstart, hend, hstrict, hhost⟩ :
      (c.matchOptions ignoreCase).sensitive ∧ (c.matchOptions ignoreCase).fromStart ∧
        (c.matchOptions ignoreCase).toEnd ∧ (c.matchOptions ignoreCase).strict ∧
        c ≠ .hostname := by
    rcases hc with rfl | rfl <;> cases ignoreCase <;> decide
  obtain ⟨compiled, hcompile, hmatch⟩ := isMatch_literal_iff hsensitive hstart hend v
  have hparts : parts c raw (c.readOptions raw special) = .ok (literalParts v) :=
    parts_eq_ok_iff.2 ⟨h, fun hip => absurd hip.1 hhost⟩
  exact ⟨_, compile_eq_ok_iff.2 ⟨_, compiled, hparts, hcompile, rfl⟩,
    fun t => (hmatch t).trans (exists_tolerated_iff hstrict)⟩

/-- Each character of the text may stand in a scheme, and has no meaning in patterns. -/
theorem exists_ofText_protocol {scheme : Text} (hne : scheme ≠ [])
    (hscheme : ∀ ch ∈ scheme, Encoding.isSchemePart ch ∧ isSpecial ch = false) :
    ∃ p, ofText .protocol false false scheme = .ok p ∧
      ∀ h, p.compiled.isMatch h ↔ h = Text.asciiLower scheme := by
  have hcanonical : (Component.readOptions .protocol scheme false).canonical scheme =
      .ok (Text.asciiLower scheme) := by
    have hall : scheme.all Encoding.isSchemePart :=
      List.all_eq_true.2 fun ch hch => (hscheme ch hch).1
    have hencode : (Component.readOptions .protocol scheme false).encode scheme =
        .ok (Text.asciiLower scheme) := if_pos hall
    simp [ReadOptions.canonical, hne, hencode]
  have hparse : parse (Component.readOptions .protocol scheme false) scheme =
      .ok (literalParts (Text.asciiLower scheme)) := by
    have hescape := parse_escape (Component.readOptions .protocol scheme false) scheme
    rw [escape_eq_self fun ch hch => (hscheme ch hch).2] at hescape
    rw [hescape]
    exact gathered_eq_literalParts hcanonical List.map_eq_nil_iff.1
  exact exists_ofText_literal (.inl rfl) false false hparse

/-! ### Schemes -/

/-- Matching a special scheme, for a pattern that matches one text only. -/
theorem matchesSpecialScheme_of_isMatch_iff {v : Text} (h : ∀ t, p.compiled.isMatch t ↔ t = v) :
    p.matchesSpecialScheme = Url.isSpecialScheme v := by
  rw [matchesSpecialScheme, Url.isSpecialScheme, Bool.eq_iff_iff, List.any_eq_true]
  simp [h]

end UrlMatch.ComponentPattern
