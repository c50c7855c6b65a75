import UrlMatch.Proofs.Component.Ipv6
import UrlMatch.Proofs.Matcher.Literal

/-!
# Host names in brackets

A host name that begins like an IPv6 address is taken for one, whatever else is in it. So fields with
such a host name stand for a URL only if its brackets enclose all of it and nothing but hexadecimal
digits and colons is in between, which are put into lower case.

## Main results

* `Fields.exists_of_looksLikeIpv6`: the canonical form of a host name that looks like an address.
* `Matcher.checkBrackets_iff_and_hostname_of_resolve?`: what the checks of brackets accept, and the
  host names that are left by them.
-/

namespace UrlMatch

open Encoding

/-- What looks like an IPv6 address has a canonical form only as a literal, and this is the literal
in lower case. -/
theorem Fields.exists_of_looksLikeIpv6 {protocol t v : Text} (hlooks : looksLikeIpv6 t)
    (h : canonicalValue .hostname protocol t = .ok v) :
    ∃ w, t = '[' :: w ++ [']'] ∧ v = '[' :: Text.asciiLower w ++ [']'] ∧
      ∀ c ∈ Text.asciiLower w, c ∈ "0123456789abcdef:".toList := by
  obtain ⟨hcheck, v, hv, rfl⟩ := encode_of_canonicalValue h
  obtain ⟨w, rfl, hw⟩ := checkIpv6Literal_eq_ok_iff.1 (hcheck ⟨rfl, hlooks⟩)
  rw [Component.encode, if_pos hlooks] at hv
  obtain ⟨hparts, rfl⟩ := ipv6Hostname_eq_ok_iff.1 hv
  have hlower : Text.asciiLower ('[' :: w ++ [']']) = '[' :: Text.asciiLower w ++ [']'] := by
    simp [Text.asciiLower]
  refine ⟨w, rfl, by simpa using hlower, fun c hc => ?_⟩
  obtain ⟨d, hd, rfl⟩ := List.mem_map.1 hc
  exact toLower_mem_of_isIpv6Part (hparts d (by simp [hd])) (hw d hd)

namespace Matcher

/-- **Brackets come in one pair.** The check for brackets accepts the texts with none or one pair of
them, and the check for a literal those that are a pair around a text without any. So fields whose
host name is more than an opening bracket, but begins with one, stand for a URL only if the canonical
host name is a pair of brackets around hexadecimal digits and colons. -/
theorem checkBrackets_iff_and_hostname_of_resolve? (t : Text) :
    (checkBrackets t = .ok () ↔ t.filter isBracket = [] ∨ t.filter isBracket = ['[', ']']) ∧
      (checkIpv6Literal t = .ok () ↔
        ∃ w, t = '[' :: w ++ [']'] ∧ ∀ c ∈ w, isBracket c = false) ∧
      ∀ (f : Fields) (base : Option Text) (values : Components Text),
        f.get? .hostname = some t → t.head? = some '[' → t ≠ ['['] →
        resolve? (.fields f) base = some values →
        ∃ w, values.hostname = '[' :: w ++ [']'] ∧
          ∀ c ∈ w, c ∈ "0123456789abcdef:".toList := by
  refine ⟨checkBrackets_eq_ok_iff, checkIpv6Literal_eq_ok_iff, ?_⟩
  intro f base values ht hhead hmore hresolve
  have hlooks : looksLikeIpv6 t := by
    obtain ⟨rest, rfl⟩ := List.head?_eq_some_iff.1 hhead
    cases rest with
    | nil => exact absurd rfl hmore
    | cons c rest => rfl
  have hcomplete : f.complete .url (.replicate []) = .ok values := by
    cases base with
    | none => exact toOption_eq_some.1 hresolve
    | some b => cases hresolve
  obtain ⟨u, -, hplaced⟩ := Fields.exists_placed_of_complete hcomplete
  have hhost := hplaced .hostname
  rw [Fields.placed.eq_def, ht] at hhost
  obtain ⟨w, -, hvalue, hchars⟩ := Fields.exists_of_looksLikeIpv6 hlooks hhost
  exact ⟨_, hvalue, hchars⟩

/-- The address `[::AB]` is put into lower case. -/
theorem hostname_of_resolve?_address :
    let f := Fields.empty.set .hostname "[::AB]".toList
    let values := (Components.replicate []).set .hostname "[::ab]".toList
    f.get? .hostname = some "[::AB]".toList ∧ "[::AB]".toList.head? = some '[' ∧
      "[::AB]".toList ≠ ['['] ∧ resolve? (.fields f) none = some values ∧
      ∃ w, values.hostname = '[' :: w ++ [']'] ∧ ∀ c ∈ w, c ∈ "0123456789abcdef:".toList := by
  intro f values
  have ht : f.get? .hostname = some "[::AB]".toList := rfl
  have hresolve : resolve? (.fields f) none = some values := by decide
  obtain ⟨-, -, hhost⟩ := checkBrackets_iff_and_hostname_of_resolve? "[::AB]".toList
  exact ⟨ht, rfl, by decide, hresolve, hhost f none values ht rfl (by decide) hresolve⟩

/-- A bracket alone is a host name like any other, and no host name may hold it. -/
example : resolve? (.fields (Fields.empty.set .hostname ['['])) none = none := by decide

end Matcher

end UrlMatch
