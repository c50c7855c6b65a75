import UrlMatch.Proofs.Host.Name

/-!
# The characters of an IPv6 address

An IPv6 address is written in brackets, with hexadecimal digits in lower case and colons between
them.

## Main results

* `Ipv6.mem_render`: the characters of an address.
* `isNameChar_or_ipv6`: a host that is read is written with the characters of a name, or is such an
  address.
-/

namespace UrlMatch.Host

namespace Ipv6

theorem mem_hexadecimal {n : Nat} {c : Char} (h : c ∈ hexadecimal n) :
    ∃ d < 16, c = Nat.digitChar d := by
  induction n using Nat.strongRecOn with
  | ind n ih =>
      rw [hexadecimal, Nat.toDigits_eq_if (by omega)] at h
      split at h
      · exact ⟨n, by omega, List.mem_singleton.1 h⟩
      · rcases List.mem_append.1 h with h | h
        · exact ih (n / 16) (by omega) h
        · exact ⟨n % 16, by omega, List.mem_singleton.1 h⟩

/-- An address is written with hexadecimal digits and colons. -/
theorem mem_render {pieces : List Nat} {c : Char} (h : c ∈ render pieces) :
    c = ':' ∨ ∃ d < 16, c = Nat.digitChar d := by
  have hjoin {ns : List Nat} (h : c ∈ Text.join [':'] (ns.map hexadecimal)) :
      c = ':' ∨ ∃ d < 16, c = Nat.digitChar d := by
    rcases Text.mem_of_mem_join h with h | ⟨piece, hpiece, h⟩
    · exact .inl (List.mem_singleton.1 h)
    · obtain ⟨n, -, rfl⟩ := List.mem_map.1 hpiece
      exact .inr (mem_hexadecimal h)
  rw [render] at h
  dsimp only at h
  split at h
  · exact hjoin h
  · rcases List.mem_append.1 h with h | h
    · rcases List.mem_append.1 h with h | h
      · exact hjoin h
      · exact .inl (by simpa using h)
    · exact hjoin h

end Ipv6

/-- What is read in brackets is an IPv6 address. -/
theorem exists_ipv6_of_parseBracketed {t : Text} {h : Host} (hparse : parseBracketed t = .ok h) :
    ∃ pieces, h = .ipv6 pieces := by
  rw [parseBracketed] at hparse
  split at hparse
  · cases hparse
    exact ⟨_, rfl⟩
  · cases hparse

/-- **A host that is read** is written with the characters of a name, or is an IPv6 address. -/
theorem isNameChar_or_ipv6 {t : Text} {h : Host} (hparse : parse t = .ok h) :
    (∀ c ∈ h.render, isNameChar c) ∨ ∃ pieces, h = .ipv6 pieces := by
  by_cases ht : t.head? = some '['
  · obtain ⟨rest, rfl⟩ := List.head?_eq_some_iff.1 ht
    exact .inr (exists_ipv6_of_parseBracketed hparse)
  · exact .inl (isNameChar_render hparse ht)

end UrlMatch.Host
