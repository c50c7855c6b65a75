import UrlMatch.Host.Basic
import UrlMatch.Proofs.Result
import UrlMatch.Proofs.Text
import UrlMatch.Proofs.Unicode.Capitals

/-!
# The characters of a host

The text of a host, brackets apart, consists of characters of ASCII that are no capital letters
and that no domain name is refused for. For a domain name this follows the way that its labels
take: they are mapped and composed, which leaves no capital letter, and what is not ASCII then is
written in Punycode, in small letters, digits and hyphens.

## Main results

* `isNameChar_of_toAscii?`: the characters of a domain name in ASCII.
* `isNameChar_render`: the characters of a host that is read without brackets.
-/

namespace UrlMatch.Host

/-- A character of ASCII, no capital letter, that a domain name may hold. -/
def isNameChar (c : Char) : Bool := c.val < 128 && !c.isUpper && !Domain.isForbidden c

/-! ### Punycode -/

namespace Punycode

/-- The digits of a number are digits of Punycode. -/
theorem mem_encodeNumber {bias q k : Nat} {c : Char} (h : c ∈ encodeNumber bias q k) :
    ∃ d < 36, c = digitChar d := by
  fun_induction encodeNumber bias q k with
  | case1 q k t hq =>
      have hlt := threshold_lt k bias
      exact ⟨q, by omega, List.mem_singleton.1 h⟩
  | case2 q k t hq ih =>
      rcases List.mem_cons.1 h with rfl | h
      · have hlt : t < 36 := threshold_lt k bias
        have hmod := Nat.mod_lt (q - t) (show 0 < 36 - t by omega)
        exact ⟨_, by omega, rfl⟩
      · exact ih h

theorem mem_insertAll {n : Nat} {s : State} {t : Text} {c : Char} (h : c ∈ (insertAll n s t).2) :
    ∃ d < 36, c = digitChar d := by
  fun_induction insertAll n s t with
  | case1 => cases h
  | case2 s c' rest hlt ih => exact ih h
  | case3 s c' rest hlt heq s' s'' out hout ih =>
      rcases List.mem_append.1 h with h | h
      · exact mem_encodeNumber h
      · exact ih (hout ▸ h)
  | case4 s c' rest hlt hne ih => exact ih h

theorem mem_encodeFrom {t : Text} {n : Nat} {s : State} {ms : List Nat} {c : Char}
    (h : c ∈ encodeFrom t n s ms) : ∃ d < 36, c = digitChar d := by
  induction ms generalizing n s with
  | nil => cases h
  | cons m ms ih =>
      rcases List.mem_append.1 h with h | h
      · exact mem_insertAll h
      · exact ih h

/-- Punycode keeps the characters of ASCII and adds hyphens and digits. -/
theorem mem_encode {t : Text} {c : Char} (h : c ∈ encode t) :
    (c ∈ t ∧ c.toNat < 128) ∨ c = '-' ∨ ∃ d < 36, c = digitChar d := by
  rcases List.mem_append.1 h with h | h
  · split at h
    · cases h
    · rcases List.mem_append.1 h with h | h
      · simpa using Or.inl (List.mem_filter.1 h)
      · exact .inr (.inl (List.mem_singleton.1 h))
  · exact .inr (.inr (mem_encodeFrom h))

end Punycode

/-! ### Domain names -/

namespace Domain

/-- The written form of a label without capital letters is ASCII without capital letters. -/
theorem label_ascii {t : Text} {l : Label} (h : Label.ofMapped? t = some l)
    (ht : ∀ c ∈ t, c.isUpper = false) : ∀ c ∈ l.ascii, c.val < 128 ∧ c.isUpper = false := by
  have hplain (hascii : Text.isAscii t) : ∀ c ∈ t, c.val < 128 ∧ c.isUpper = false :=
    fun c hc => ⟨by simpa using List.all_eq_true.1 hascii c hc, ht c hc⟩
  rw [Label.ofMapped?] at h
  split at h
  · split at h
    · cases h
    · rename_i hascii
      obtain ⟨spelled, -, h⟩ := Option.bind_eq_some_iff.1 h
      split at h
      · obtain rfl := Option.some.inj h
        exact hplain (by simpa using hascii)
      · cases h
  · split at h
    · rename_i hascii
      obtain rfl := Option.some.inj h
      exact hplain hascii
    · split at h
      · obtain rfl := Option.some.inj h
        intro c hc
        rcases List.mem_append.1 hc with hc | hc
        · have hmark : ∀ c ∈ punycodeMark, c.val < 128 ∧ c.isUpper = false :=
            Text.forall_mem_of_all (by decide)
          exact hmark c hc
        · rcases Punycode.mem_encode hc with ⟨hmem, hlt⟩ | rfl | ⟨d, hd, rfl⟩
          · exact ⟨UInt32.lt_iff_toNat_lt.2 hlt, ht c hmem⟩
          · decide
          · have hdigit : ∀ d ∈ List.range 36, (Punycode.digitChar d).val < 128 ∧
                (Punycode.digitChar d).isUpper = false := by decide
            exact hdigit d (List.mem_range.2 hd)
      · cases h

end Domain

/-- **The characters of a domain name in ASCII.** -/
theorem isNameChar_of_toAscii? {t v : Text} (h : Domain.toAscii? t = some v) :
    ∀ c ∈ v, isNameChar c := by
  obtain ⟨mapped, hmapped, h⟩ := Option.bind_eq_some_iff.1 h
  obtain ⟨labels, hlabels, h⟩ := Option.bind_eq_some_iff.1 h
  have hcomposed : ∀ c ∈ Unicode.compose mapped.flatten, c.isUpper = false := by
    refine Unicode.isUpper_compose fun c hc => ?_
    obtain ⟨piece, hpiece, hc⟩ := List.mem_flatten.1 hc
    obtain ⟨d, -, hd⟩ := exists_of_mem_mapM hmapped piece hpiece
    exact Unicode.testBit_of_mapDomain? hd c hc
  have hascii : ∀ c ∈ Text.join ['.'] (labels.map (·.ascii)), c.val < 128 ∧ c.isUpper = false := by
    intro c hc
    rcases Text.mem_of_mem_join hc with hc | ⟨piece, hpiece, hc⟩
    · obtain rfl := List.mem_singleton.1 hc
      decide
    · obtain ⟨l, hl, rfl⟩ := List.mem_map.1 hpiece
      obtain ⟨label, hlabel, hread⟩ := exists_of_mem_mapM hlabels l hl
      exact Domain.label_ascii hread (fun c hc =>
        hcomposed c (Text.mem_of_mem_splitBy hlabel c hc).1) c hc
  dsimp only at h
  split at h
  · cases h
  · split at h
    · cases h
    · rename_i hallowed
      obtain rfl := Option.some.inj h
      intro c hc
      obtain ⟨hlt, hupper⟩ := hascii c hc
      have hforbidden : Domain.isForbidden c = false := by
        by_contra hf
        exact hallowed (List.any_eq_true.2 ⟨c, hc, by simpa using hf⟩)
      simp [isNameChar, hlt, hupper, hforbidden]

/-! ### Hosts -/

theorem isNameChar_of_isDigit {c : Char} (h : c.isDigit) : isNameChar c :=
  Text.forall_digit (isNameChar ·) (by decide) c h

theorem isDigit_decimal {n : Nat} {c : Char} (h : c ∈ decimal n) : c.isDigit :=
  Nat.isDigit_of_mem_toDigits (by omega) (by omega) h

/-- An IPv4 address is written with digits and points. -/
theorem isNameChar_ipv4 (n : Nat) : ∀ c ∈ Ipv4.render n, isNameChar c := by
  intro c hc
  simp only [Ipv4.render, List.mem_append, List.mem_cons] at hc
  have hpoint : isNameChar '.' := by decide
  rcases hc with ((hc | rfl | hc) | rfl | hc) | rfl | hc
  all_goals first | exact hpoint | exact isNameChar_of_isDigit (isDigit_decimal hc)

/-- **The characters of a host that is read without brackets.** -/
theorem isNameChar_render {t : Text} {h : Host} (hparse : parse t = .ok h)
    (ht : t.head? ≠ some '[') : ∀ c ∈ h.render, isNameChar c := by
  rw [parse.eq_def] at hparse
  split at hparse
  · exact absurd rfl ht
  · split at hparse
    · cases hparse
    · rename_i name hname
      obtain ⟨decoded, -, hascii⟩ := Option.bind_eq_some_iff.1 hname
      split at hparse
      · cases hparse
      · split at hparse
        · split at hparse
          · cases hparse
            exact isNameChar_ipv4 _
          · cases hparse
        · cases hparse
          exact isNameChar_of_toAscii? hascii

end UrlMatch.Host
