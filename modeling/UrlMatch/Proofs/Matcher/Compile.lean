import Mathlib.Tactic.Choose
import UrlMatch.Matcher
import UrlMatch.Proofs.Component.Map
import UrlMatch.Proofs.Pattern.Literal
import UrlMatch.Proofs.Text

/-!
# Compiling URL patterns

A URL pattern is compiled component by component, each as its own pattern says. The others depend on
the protocol in two ways: its pattern decides whether the path is one of a special scheme, and a
port that is the protocol's own is left out.

## Main results

* `Matcher.compile_eq_ok_iff`: what a URL pattern is compiled to.
* `Matcher.exists_compile`: when it compiles.
-/

namespace UrlMatch

open Pattern

/-! ### Default ports -/

namespace Url

/-- The schemes with a port of their own, and these ports. -/
def defaultPorts : List (Text × Text) :=
  [("ftp".toList, ['2', '1']), ("http".toList, ['8', '0']), ("ws".toList, ['8', '0']),
    ("https".toList, ['4', '4', '3']), ("wss".toList, ['4', '4', '3'])]

theorem mem_defaultPorts {scheme port : Text} (h : defaultPort? scheme = some port) :
    (scheme, port) ∈ defaultPorts := by
  rw [defaultPort?] at h
  split at h
  · rename_i hscheme
    cases h
    rw [hscheme]
    decide
  · split at h
    · rename_i hscheme
      cases h
      rcases hscheme with rfl | rfl <;> decide
    · split at h
      · rename_i hscheme
        cases h
        rcases hscheme with rfl | rfl <;> decide
      · cases h

/-- Only schemes of small letters have a port of their own. -/
theorem isLower_of_defaultPort? {scheme port : Text} (h : defaultPort? scheme = some port) :
    ∀ c ∈ scheme, c.isLower := by
  have hall : ∀ row ∈ defaultPorts, row.1.all Char.isLower := by decide
  exact List.all_eq_true.1 (hall _ (mem_defaultPorts h))

/-- A port that some scheme has of its own is canonical, and has no special character. -/
theorem port_of_defaultPort? {scheme port : Text} (h : defaultPort? scheme = some port) :
    Encoding.port port = .ok port ∧ escape port = port := by
  have hall : ∀ row ∈ defaultPorts, Encoding.port row.2 = .ok row.2 ∧ escape row.2 = row.2 := by
    decide
  exact hall _ (mem_defaultPorts h)

/-- No scheme with an escaped character has a port of its own. -/
theorem defaultPort?_escape (v : Text) :
    defaultPort? (Text.asciiLower (escape v)) = defaultPort? (Text.asciiLower v) := by
  by_cases hplain : ∀ c ∈ v, isSpecial c = false
  · rw [escape_eq_self hplain]
  · simp only [not_forall] at hplain
    obtain ⟨c, hc, hspecial⟩ := hplain
    have hkept : c.toLower = c ∧ c.isLower = false := by
      have hall : ∀ c ∈ ['+', '*', '?', ':', '\x7b', '\x7d', '(', ')', '\\'],
          c.toLower = c ∧ c.isLower = false := Text.forall_mem_of_all (by decide)
      rw [Bool.not_eq_false, isSpecial, decide_eq_true_eq] at hspecial
      exact hall c hspecial
    have hnone (t : Text) (ht : c ∈ t) : defaultPort? (Text.asciiLower t) = none := by
      cases hport : defaultPort? (Text.asciiLower t) with
      | none => rfl
      | some port =>
          have hlower := isLower_of_defaultPort? hport c (List.mem_map.2 ⟨c, ht, hkept.1⟩)
          rw [hkept.2] at hlower
          cases hlower
    rw [hnone v hc, hnone _ (mem_escape hc)]

end Url

/-! ### The patterns of components -/

namespace Matcher

variable {ignoreCase : Bool} {m : Matcher} {c : Component} {patterns : Components Text}

/-- **Each component is compiled as its own pattern says**, beside the pattern of the protocol. -/
theorem compile_eq_ok_iff :
    compile patterns ignoreCase = .ok m ↔ m.ignoreCase = ignoreCase ∧ ∀ c,
      ComponentPattern.ofText c m.components.protocol.matchesSpecialScheme ignoreCase
        (patterns.get c) = .ok (m.components.get c) := by
  rw [compile, bind_eq_ok]
  constructor
  · rintro ⟨protocol, hprotocol, h⟩
    obtain ⟨components, hcomponents, ⟨⟩⟩ := bind_eq_ok.1 h
    have hone := Components.mapM_eq_ok_iff.1 hcomponents
    obtain rfl : protocol = components.protocol := Except.ok.inj (hone .protocol)
    refine ⟨rfl, fun c => ?_⟩
    by_cases hc : c = .protocol
    · subst hc
      exact hprotocol
    · have hcompiled := hone c
      rwa [if_neg hc] at hcompiled
  · rintro ⟨rfl, h⟩
    refine ⟨m.components.protocol, h .protocol, bind_eq_ok.2 ⟨m.components, ?_, rfl⟩⟩
    refine Components.mapM_eq_ok_iff.2 fun c => ?_
    split
    · rename_i hc
      rw [hc]
      rfl
    · exact h c

/-- **A URL pattern compiles** if the patterns of all components do. -/
theorem exists_compile {special : Bool}
    (hspecial : ∀ p, ComponentPattern.ofText .protocol false ignoreCase patterns.protocol = .ok p →
      p.matchesSpecialScheme = special)
    (h : ∀ c, ∃ p, ComponentPattern.ofText c special ignoreCase (patterns.get c) = .ok p) :
    ∃ m, compile patterns ignoreCase = .ok m := by
  choose p hp using h
  have hprotocol := hspecial (p .protocol) (hp .protocol)
  refine ⟨⟨.ofFn p, ignoreCase⟩, compile_eq_ok_iff.2 ⟨rfl, fun c => ?_⟩⟩
  rw [Components.get_ofFn, ← hp c, ← hprotocol]
  rfl

/-- A port is left out only if it is the protocol's own. -/
theorem get_withoutDefaultPort
    (hc : c = .port →
      Url.defaultPort? (Text.asciiLower patterns.protocol) ≠ some patterns.port) :
    (withoutDefaultPort patterns).get c = patterns.get c := by
  rw [withoutDefaultPort]
  split
  · rename_i hdefault
    cases c with
    | port => exact absurd hdefault (hc rfl)
    | _ => rfl
  · rfl

end Matcher

end UrlMatch
