import UrlMatch.Component.Encoding
import UrlMatch.Proofs.Text

/-!
# IPv6 addresses as host names

The brackets of a text are checked with a state that tells which of them have been read: none, the
opening one, or a pair. So a text passes if it holds no bracket or exactly one pair, and if the pair
has to enclose all of it, the rest holds none. The characters are looked at on their own: only
hexadecimal digits and colons are left between the brackets.

## Main results

* `foldlM_next?_eq_some_iff`: a state tells exactly which brackets have been read.
* `checkBrackets_eq_ok_iff`: a text passes if its brackets are none or one pair.
* `checkIpv6Literal_eq_ok_iff`: a literal is a pair of brackets around a text without any.
* `ipv6Hostname_eq_ok_iff`: the canonical form of an address.
-/

namespace UrlMatch.Encoding

variable {b b' : Brackets} {c : Char} {t w : Text}

/-- An opening or a closing bracket. -/
def isBracket (c : Char) : Bool := c == '[' || c == ']'

theorem isBracket_iff : isBracket c ↔ c = '[' ∨ c = ']' := by
  simp [isBracket]

/-! ### One bracket after the other -/

/-- The brackets that have been read. -/
def Brackets.read : Brackets → Text
  | .none => []
  | .opened => ['[']
  | .closed => ['[', ']']

theorem read_inj : b.read = b'.read ↔ b = b' := by
  cases b <;> cases b' <;> simp [Brackets.read]

/-- Other characters do not matter. -/
theorem next?_of_not_isBracket (b : Brackets) (hc : isBracket c = false) : b.next? c = some b := by
  rw [Brackets.next?.eq_def]
  split <;> simp_all [isBracket]

/-- A bracket that is in its place has been read. -/
theorem read_of_next? (hc : isBracket c) (h : b.next? c = some b') : b'.read = b.read ++ [c] := by
  rcases isBracket_iff.1 hc with rfl | rfl
  · cases b with
    | none => exact Option.some.inj h ▸ rfl
    | opened | closed => cases h
  · cases b with
    | opened => exact Option.some.inj h ▸ rfl
    | none | closed => cases h

/-- A bracket is in its place if what has been read then belongs to a state. -/
theorem exists_next? (hc : isBracket c) (h : b.read ++ c :: t = b'.read) :
    ∃ next, b.next? c = some next := by
  rcases isBracket_iff.1 hc with rfl | rfl
  · cases b with
    | none => exact ⟨.opened, rfl⟩
    | opened | closed => cases b' <;> simp [Brackets.read] at h
  · cases b with
    | opened => exact ⟨.closed, rfl⟩
    | none | closed => cases b' <;> simp [Brackets.read] at h

/-! ### The brackets of a text -/

/-- **A state tells exactly which brackets have been read.** -/
theorem foldlM_next?_eq_some_iff :
    t.foldlM Brackets.next? b = some b' ↔ b.read ++ t.filter isBracket = b'.read := by
  induction t generalizing b with
  | nil =>
      rw [List.foldlM_nil, List.filter_nil, List.append_nil, read_inj]
      exact Option.some_inj
  | cons c t ih =>
      rw [List.foldlM_cons]
      by_cases hc : isBracket c
      · rw [List.filter_cons_of_pos hc]
        constructor
        · intro h
          obtain ⟨next, hnext, h⟩ := Option.bind_eq_some_iff.1 h
          rw [← ih.1 h, read_of_next? hc hnext, List.append_assoc]
          rfl
        · intro h
          obtain ⟨next, hnext⟩ := exists_next? hc h
          refine Option.bind_eq_some_iff.2 ⟨next, hnext, ih.2 ?_⟩
          rw [read_of_next? hc hnext, List.append_assoc]
          exact h
      · rw [List.filter_cons_of_neg hc, next?_of_not_isBracket b (by simpa using hc)]
        exact ih

/-- **A text passes if its brackets are none or one pair.** -/
theorem checkBrackets_eq_ok_iff :
    checkBrackets t = .ok () ↔
      t.filter isBracket = [] ∨ t.filter isBracket = ['[', ']'] := by
  have hread {b : Brackets} :
      t.foldlM Brackets.next? .none = some b ↔ t.filter isBracket = b.read :=
    foldlM_next?_eq_some_iff
  rw [checkBrackets]
  cases hrun : t.foldlM Brackets.next? .none with
  | none =>
      refine iff_of_false nofun ?_
      rintro (hnone | hpair)
      · exact absurd (hread (b := .none).2 hnone) (by simp [hrun])
      · exact absurd (hread (b := .closed).2 hpair) (by simp [hrun])
  | some b =>
      rw [hread.1 hrun]
      cases b <;> simp [Brackets.read]

theorem filter_isBracket_eq_nil : t.filter isBracket = [] ↔ ∀ c ∈ t, isBracket c = false := by
  simp [List.filter_eq_nil_iff]

/-- **A literal is a pair of brackets around a text without any.** -/
theorem checkIpv6Literal_eq_ok_iff :
    checkIpv6Literal t = .ok () ↔ ∃ w, t = '[' :: w ++ [']'] ∧ ∀ c ∈ w, isBracket c = false := by
  have hfilter (w : Text) :
      ('[' :: w ++ [']']).filter isBracket = '[' :: w.filter isBracket ++ [']'] := by
    simp [isBracket]
  rw [checkIpv6Literal]
  constructor
  · intro h
    split at h
    · rename_i hends
      obtain ⟨rest, rfl⟩ := List.head?_eq_some_iff.1 hends.1
      obtain ⟨w, hw⟩ := List.getLast?_eq_some_iff.1 hends.2
      -- The two ends are different brackets, so they are two characters.
      cases w with
      | nil => cases hw
      | cons first w =>
          obtain rfl : rest = w ++ [']'] := (List.cons.inj hw).2
          have hbrackets := checkBrackets_eq_ok_iff.1 h
          rw [← List.cons_append, hfilter] at hbrackets
          exact ⟨w, rfl, filter_isBracket_eq_nil.1 (by simpa using hbrackets)⟩
    · cases h
  · rintro ⟨w, rfl, hw⟩
    rw [if_pos ⟨rfl, List.getLast?_concat⟩, checkBrackets_eq_ok_iff, hfilter,
      filter_isBracket_eq_nil.2 hw]
    exact .inr rfl

/-- The brackets of a literal are in order. -/
theorem checkBrackets_of_checkIpv6Literal (h : checkIpv6Literal t = .ok ()) :
    checkBrackets t = .ok () := by
  rw [checkIpv6Literal] at h
  split at h
  · exact h
  · cases h

/-! ### The characters of an address -/

/-- The canonical form of an address, which has no other characters, is its lower case. -/
theorem ipv6Hostname_eq_ok_iff :
    ipv6Hostname t = .ok w ↔ (∀ c ∈ t, isIpv6Part c) ∧ w = Text.asciiLower t := by
  have hnone : t.find? (!isIpv6Part ·) = none ↔ ∀ c ∈ t, isIpv6Part c := by
    simp [List.find?_eq_none]
  rw [ipv6Hostname, ← hnone]
  cases t.find? (!isIpv6Part ·) <;> simp [eq_comm]

theorem toNat_lt_of_isIpv6Part (h : isIpv6Part c) : c.toNat < 128 := by
  simp only [isIpv6Part, Bool.or_eq_true, beq_iff_eq] at h
  rcases h with ((hdigit | rfl) | rfl) | rfl
  · rw [hexValue?] at hdigit
    grind [Char.le_def, UInt32.le_iff_toNat_le, Char.toNat]
  all_goals decide

/-- Brackets apart, an address is written with hexadecimal digits and colons. -/
theorem toLower_mem_of_isIpv6Part (h : isIpv6Part c) (hc : isBracket c = false) :
    c.toLower ∈ "0123456789abcdef:".toList :=
  Text.forall_ascii
    (fun c => isIpv6Part c → isBracket c = false → c.toLower ∈ "0123456789abcdef:".toList)
    (by decide +kernel) c (toNat_lt_of_isIpv6Part h) h hc

end UrlMatch.Encoding
