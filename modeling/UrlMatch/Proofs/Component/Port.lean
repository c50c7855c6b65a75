import Mathlib.Data.Nat.Digits.Defs
import UrlMatch.Component.Encoding
import UrlMatch.Proofs.Host.Name

/-!
# Ports as numbers

A port is read into sixteen bits, digit by digit, and every product and every sum on the way has to
fit. As more digits do not make a number smaller, this fails exactly if the value of all digits does
not fit, and zeros in front have no say in it. What is read is written as the shortest numeral of
its value.

## Main results

* `portNumber?_eq_some_iff`: the number that is read is the value of the digits.
* `isShortestNumeral_iff`: the shortest numeral of a number is its decimal form.
* `Encoding.port_eq`: the canonical form of every text, or the cause for which it has none.
* `Encoding.port_eq_ok_iff_isShortestNumeral`: ports are normalized as numbers.
-/

namespace UrlMatch

/-! ### Numerals -/

variable {s t : Text} {n : Nat} {c : Char}

/-- Decimal digits, at least one. -/
structure IsNumeral (t : Text) : Prop where
  ne_nil : t ≠ []
  isDigit : ∀ c ∈ t, c.isDigit

/-- A numeral of the number, and no numeral of it is shorter. -/
structure IsShortestNumeral (n : Nat) (t : Text) : Prop extends IsNumeral t where
  value : decimalValue t = n
  length_le : ∀ s, IsNumeral s → decimalValue s = n → t.length ≤ s.length

theorem digitValue_lt (h : c.isDigit) : digitValue c < 10 :=
  Text.forall_digit (digitValue · < 10) (by decide) c h

/-- A digit is known by its value. -/
theorem digitChar_digitValue (h : c.isDigit) : Nat.digitChar (digitValue c) = c :=
  Text.forall_digit (fun c => Nat.digitChar (digitValue c) = c) (by decide) c h

/-- The value of a text is that of its digits, of which the last one counts least. -/
theorem decimalValue_eq_ofDigits (t : Text) :
    decimalValue t = Nat.ofDigits 10 (t.map digitValue).reverse := by
  rw [Nat.ofDigits_eq_foldr, List.foldr_reverse, decimalValue, digitsValue]
  simp only [Nat.cast_id, Nat.add_comm, Nat.mul_comm]

theorem digitValue_lt_of_mem_reverse (h : ∀ c ∈ t, c.isDigit) :
    ∀ d ∈ (t.map digitValue).reverse, d < 10 := by
  intro d hd
  obtain ⟨c, hc, rfl⟩ := List.mem_map.1 (List.mem_reverse.1 hd)
  exact digitValue_lt (h c hc)

/-- A text of `k` digits has a value below the `k`-th power of ten. -/
theorem decimalValue_lt (h : ∀ c ∈ t, c.isDigit) : decimalValue t < 10 ^ t.length := by
  have hlt := Nat.ofDigits_lt_base_pow_length (by decide) (digitValue_lt_of_mem_reverse h)
  rwa [List.length_reverse, List.length_map, ← decimalValue_eq_ofDigits] at hlt

/-- Two numerals of one length and one value are the same. -/
theorem eq_of_decimalValue_eq (hs : ∀ c ∈ s, c.isDigit) (ht : ∀ c ∈ t, c.isDigit)
    (hlength : s.length = t.length) (hvalue : decimalValue s = decimalValue t) : s = t := by
  rw [decimalValue_eq_ofDigits, decimalValue_eq_ofDigits] at hvalue
  have hdigits := List.reverse_inj.1 (Nat.ofDigits_inj_of_len_eq (by decide) (by simpa)
    (digitValue_lt_of_mem_reverse hs) (digitValue_lt_of_mem_reverse ht) hvalue)
  have hback {t : Text} (h : ∀ c ∈ t, c.isDigit) : (t.map digitValue).map Nat.digitChar = t := by
    rw [List.map_map]
    exact (List.map_congr_left fun c hc => digitChar_digitValue (h c hc)).trans (List.map_id t)
  rw [← hback hs, hdigits, hback ht]

theorem isNumeral_decimal (n : Nat) : IsNumeral (decimal n) :=
  ⟨Nat.toDigits_ne_nil, fun _ hc => Host.isDigit_decimal hc⟩

/-- The value of the decimal form of a number is the number. -/
theorem decimalValue_decimal (n : Nat) : decimalValue (decimal n) = n := by
  have hvalue : decimalValue (decimal n) = Nat.ofDigitChars 10 (decimal n) 0 := by
    rw [decimalValue, digitsValue, List.foldl_map, Nat.ofDigitChars_eq_foldl]
    simp only [Nat.mul_comm 10, digitValue]
  rw [hvalue]
  exact Nat.ofDigitChars_ten_toDigits

theorem decimal_injective : Function.Injective decimal := by
  intro m n h
  rw [← decimalValue_decimal m, h, decimalValue_decimal]

/-- No numeral of a number is shorter than its decimal form. -/
theorem isShortestNumeral_decimal (n : Nat) : IsShortestNumeral n (decimal n) := by
  refine ⟨isNumeral_decimal n, decimalValue_decimal n, fun s hs hvalue => ?_⟩
  refine (Nat.length_toDigits_le_iff (by decide) (List.length_pos_iff.2 hs.ne_nil)).2 ?_
  rw [← hvalue]
  exact decimalValue_lt hs.isDigit

/-- **The shortest numeral of a number** is its decimal form. -/
theorem isShortestNumeral_iff : IsShortestNumeral n t ↔ t = decimal n := by
  constructor
  · intro h
    have hdecimal := isShortestNumeral_decimal n
    refine eq_of_decimalValue_eq h.isDigit hdecimal.isDigit ?_ (h.value.trans hdecimal.value.symm)
    exact Nat.le_antisymm (h.length_le _ hdecimal.toIsNumeral hdecimal.value)
      (hdecimal.length_le _ h.toIsNumeral h.value)
  · rintro rfl
    exact isShortestNumeral_decimal n

namespace Encoding

/-! ### Numbers of sixteen bits -/

variable {k m p : UInt16} {v : Text}

theorem product?_eq_some_iff : product? k m = some p ↔ k.toNat * m.toNat = p.toNat := by
  rw [product?]
  split
  · rename_i hlt
    rw [Option.some_inj, ← UInt16.toNat_inj, UInt16.toNat_mul, Nat.mod_eq_of_lt hlt]
  · rename_i hlarge
    refine iff_of_false nofun fun h => hlarge ?_
    rw [h]
    exact p.toNat_lt

theorem sum?_eq_some_iff : sum? k m = some p ↔ k.toNat + m.toNat = p.toNat := by
  rw [sum?]
  split
  · rename_i hlt
    rw [Option.some_inj, ← UInt16.toNat_inj, UInt16.toNat_add, Nat.mod_eq_of_lt hlt]
  · rename_i hlarge
    refine iff_of_false nofun fun h => hlarge ?_
    rw [h]
    exact p.toNat_lt

/-- One digit is read if there is room for it, and becomes the last one. -/
theorem appendDigit?_eq_some_iff (hc : c.isDigit) :
    appendDigit? k c = some p ↔ k.toNat * 10 + digitValue c = p.toNat := by
  have hdigit : (UInt16.ofNat (digitValue c)).toNat = digitValue c :=
    UInt16.toNat_ofNat_of_lt' (Nat.lt_trans (digitValue_lt hc) (by decide))
  rw [appendDigit?]
  simp only [Option.bind_eq_bind, Option.bind_eq_some_iff, product?_eq_some_iff,
    sum?_eq_some_iff, hdigit]
  constructor
  · rintro ⟨tenfold, htenfold, hsum⟩
    rw [← hsum, ← htenfold]
    rfl
  · intro h
    -- The tenfold number is not larger than the sum, so it has a place among sixteen bits too.
    have hlt : k.toNat * 10 < UInt16.size := by
      have := p.toNat_lt
      simp only [UInt16.size]
      omega
    refine ⟨.ofNatLT (k.toNat * 10) hlt, ?_, ?_⟩
    · rw [UInt16.toNat_ofNatLT]
      rfl
    · rw [UInt16.toNat_ofNatLT, h]

/-- More digits do not make a number smaller. -/
theorem le_foldl_digitValue (n : Nat) (t : Text) :
    n ≤ t.foldl (fun n c => n * 10 + digitValue c) n := by
  induction t generalizing n with
  | nil => exact Nat.le_refl n
  | cons c t ih =>
      calc n ≤ n * 10 + digitValue c := by omega
        _ ≤ _ := ih _

/-- Reading goes on from a number exactly as far as sixteen bits hold the value. -/
theorem foldlM_appendDigit?_eq_some_iff (ht : ∀ c ∈ t, c.isDigit) :
    t.foldlM appendDigit? k = some p ↔
      t.foldl (fun n c => n * 10 + digitValue c) k.toNat = p.toNat := by
  induction t generalizing k with
  | nil =>
      rw [List.foldlM_nil, List.foldl_nil, UInt16.toNat_inj]
      exact Option.some_inj
  | cons c t ih =>
      obtain ⟨hc, ht⟩ := List.forall_mem_cons.1 ht
      simp only [List.foldlM_cons, List.foldl_cons, Option.bind_eq_bind, Option.bind_eq_some_iff,
        appendDigit?_eq_some_iff hc, ih ht]
      constructor
      · rintro ⟨next, hnext, hrest⟩
        rw [hnext, hrest]
      · intro h
        -- What is read so far is not larger than the whole value, which sixteen bits hold.
        have hlt : k.toNat * 10 + digitValue c < UInt16.size :=
          Nat.lt_of_le_of_lt (le_foldl_digitValue _ t) (h ▸ p.toNat_lt)
        exact ⟨.ofNatLT _ hlt, (UInt16.toNat_ofNatLT ..).symm, by rwa [UInt16.toNat_ofNatLT]⟩

/-- **The number that is read is the value of the digits.** -/
theorem portNumber?_eq_some_iff (ht : ∀ c ∈ t, c.isDigit) :
    portNumber? t = some p ↔ decimalValue t = p.toNat := by
  rw [portNumber?, foldlM_appendDigit?_eq_some_iff ht, decimalValue, digitsValue, List.foldl_map]
  rfl

/-! ### Ports -/

/-- A numeral of a port. -/
structure IsPort (t : Text) : Prop extends IsNumeral t where
  le_max : decimalValue t ≤ 65535

instance (t : Text) : Decidable (IsPort t) :=
  decidable_of_iff (t ≠ [] ∧ t.all Char.isDigit ∧ decimalValue t ≤ 65535)
    ⟨fun h => ⟨⟨h.1, List.all_eq_true.1 h.2.1⟩, h.2.2⟩,
      fun h => ⟨h.ne_nil, List.all_eq_true.2 h.isDigit, h.le_max⟩⟩

/-- **The canonical form of a port**, or the cause for which there is none. -/
theorem port_eq (t : Text) :
    port t = if t = [] then .ok []
      else if IsPort t then .ok (decimal (decimalValue t)) else .error (.invalidPort t) := by
  rw [port]
  split
  · rfl
  · rename_i hne
    split
    · rename_i hdigits
      have hdigits : ∀ c ∈ t, c.isDigit := List.all_eq_true.1 hdigits
      split
      · rename_i p hread
        have hvalue := (portNumber?_eq_some_iff hdigits).1 hread
        have hmax : decimalValue t ≤ 65535 := Nat.le_of_lt_succ (hvalue ▸ p.toNat_lt)
        rw [if_pos ⟨⟨hne, hdigits⟩, hmax⟩, hvalue]
      · rename_i hread
        rw [if_neg]
        intro h
        have hlt : decimalValue t < UInt16.size := Nat.lt_succ_of_le h.le_max
        have hsome := (portNumber?_eq_some_iff (p := .ofNatLT _ hlt) hdigits).2
          (UInt16.toNat_ofNatLT ..).symm
        rw [hread] at hsome
        cases hsome
    · rename_i hdigits
      rw [if_neg]
      exact fun h => hdigits (List.all_eq_true.2 h.isDigit)

example : port "0000000443".toList = .ok "443".toList := by decide

example : port "65536".toList = .error (.invalidPort "65536".toList) := by decide

theorem port_eq_ok_iff :
    port t = .ok v ↔ t = [] ∧ v = [] ∨ IsPort t ∧ v = decimal (decimalValue t) := by
  rw [port_eq]
  by_cases ht : t = []
  · subst ht
    have hnone : ¬IsPort [] := fun h => h.ne_nil rfl
    simp [hnone, eq_comm]
  · by_cases hport : IsPort t
    · simp [ht, hport, eq_comm]
    · simp [ht, hport]

/-- The decimal form of a port is canonical. -/
theorem port_decimal (h : n ≤ 65535) : port (decimal n) = .ok (decimal n) := by
  have hport : IsPort (decimal n) := ⟨isNumeral_decimal n, by rwa [decimalValue_decimal]⟩
  exact port_eq_ok_iff.2 (.inr ⟨hport, by rw [decimalValue_decimal]⟩)

theorem port_of_port (h : port t = .ok v) : port v = .ok v := by
  rcases port_eq_ok_iff.1 h with ⟨-, rfl⟩ | ⟨ht, rfl⟩
  · rfl
  · exact port_decimal ht.le_max

/-- **Ports are normalized as numbers.** The empty text stays, and digits of a value below 65536
become the shortest numeral of that value; there is nothing else that has a canonical form. So two
such numerals have one canonical form exactly if they have one value. -/
theorem port_eq_ok_iff_isShortestNumeral (t : Text) :
    ((∃ v, port t = .ok v) ↔ t = [] ∨ IsPort t) ∧
      (∀ v, port t = .ok v ↔
        t = [] ∧ v = [] ∨ IsPort t ∧ IsShortestNumeral (decimalValue t) v) ∧
      ∀ s, IsPort s → IsPort t → (port s = port t ↔ decimalValue s = decimalValue t) := by
  refine ⟨⟨?_, ?_⟩, fun v => ?_, fun s hs ht => ?_⟩
  · rintro ⟨v, hv⟩
    exact (port_eq_ok_iff.1 hv).imp And.left And.left
  · rintro (rfl | ht)
    · exact ⟨[], rfl⟩
    · exact ⟨_, port_eq_ok_iff.2 (.inr ⟨ht, rfl⟩)⟩
  · rw [port_eq_ok_iff, isShortestNumeral_iff]
  · have hcanonical {t : Text} (ht : IsPort t) : port t = .ok (decimal (decimalValue t)) :=
      port_eq_ok_iff.2 (.inr ⟨ht, rfl⟩)
    rw [hcanonical hs, hcanonical ht, Except.ok.injEq, decimal_injective.eq_iff]

/-- The port of `https`, with and without zeros in front of it. -/
theorem port_eq_port_of_zeros :
    IsPort "0000000443".toList ∧ IsPort "443".toList ∧
      port "0000000443".toList = port "443".toList := by
  have hzeros : IsPort "0000000443".toList := by decide
  have hplain : IsPort "443".toList := by decide
  obtain ⟨-, -, hsame⟩ := port_eq_ok_iff_isShortestNumeral "443".toList
  exact ⟨hzeros, hplain, (hsame "0000000443".toList hzeros hplain).2 (by decide)⟩

end Encoding

end UrlMatch
