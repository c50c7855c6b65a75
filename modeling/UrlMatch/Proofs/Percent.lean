import UrlMatch.Percent
import UrlMatch.Proofs.Text

/-!
# What percent-encoding leaves alone

Percent-encoding writes what it encodes with a percent sign and upper case hexadecimal digits. As
long as none of these is to be encoded itself, encoding a second time changes nothing.

## Main results

* `encode_eq_self`: a text that nothing is to be encoded in.
* `isEncoded_of_mem_encode`: nothing is to be encoded in an encoded text.
-/

namespace UrlMatch.Percent

/-- The characters that an encoded byte is written with. -/
def signs : Text := "%0123456789ABCDEF".toList

/-- None of the characters that an encoded byte is written with is encoded. -/
def SparesSigns (reserved : Char → Bool) : Prop := ∀ c ∈ signs, reserved c = false

variable {reserved : Char → Bool} {t : Text} {c : Char}

instance : Decidable (SparesSigns reserved) :=
  decidable_of_iff (signs.all fun c => !reserved c) (by simp [SparesSigns])

theorem mem_signs_of_mem_encodeByte {b : UInt8} (h : c ∈ encodeByte b) : c ∈ signs := by
  have hdigit : ∀ n ∈ List.range 16, hexDigit n ∈ signs := by decide
  have hlow : b.toNat % 16 < 16 := Nat.mod_lt _ (by omega)
  have hhigh : b.toNat / 16 < 16 := by
    have hb := b.toNat_lt
    omega
  simp only [encodeByte, List.mem_cons, List.not_mem_nil, or_false] at h
  rcases h with rfl | rfl | rfl
  · decide
  · exact hdigit _ (List.mem_range.2 hhigh)
  · exact hdigit _ (List.mem_range.2 hlow)

/-- The characters of an encoded text are those that are left alone, and the signs of bytes. -/
theorem mem_of_mem_encode (h : c ∈ encode reserved t) :
    c ∈ signs ∨ c ∈ t ∧ isEncoded reserved c = false := by
  obtain ⟨d, hd, hc⟩ := List.mem_flatMap.1 h
  rw [encodeChar] at hc
  split at hc
  · obtain ⟨b, -, hb⟩ := List.mem_flatMap.1 hc
    exact .inl (mem_signs_of_mem_encodeByte hb)
  · rename_i hkept
    obtain rfl := List.mem_singleton.1 hc
    exact .inr ⟨hd, by simpa using hkept⟩

/-- **Nothing is to be encoded in an encoded text.** -/
theorem isEncoded_of_mem_encode (hr : SparesSigns reserved) :
    ∀ c ∈ encode reserved t, isEncoded reserved c = false := by
  intro c hc
  rcases mem_of_mem_encode hc with hsign | ⟨-, hkept⟩
  · have hplain : ∀ c ∈ signs, isControl c = false ∧ ¬ 128 ≤ c.val :=
      Text.forall_mem_of_all (by decide)
    obtain ⟨hcontrol, hlt⟩ := hplain c hsign
    simp [isEncoded, hcontrol, hlt, hr c hsign]
  · exact hkept

/-- **Where nothing is to be encoded, the text stays as it is.** -/
theorem encode_eq_self (h : ∀ c ∈ t, isEncoded reserved c = false) : encode reserved t = t := by
  induction t with
  | nil => rfl
  | cons c t ih =>
      obtain ⟨hc, ht⟩ := List.forall_mem_cons.1 h
      have hstep : encode reserved (c :: t) = encodeChar reserved c ++ encode reserved t := rfl
      rw [hstep, ih ht, encodeChar, hc, if_neg (by simp), List.singleton_append]

/-- An encoded text begins as the text does, or with the sign of a byte. -/
theorem head?_encode (h : (encode reserved t).head? = some c) : c = '%' ∨ t.head? = some c := by
  cases t with
  | nil => cases h
  | cons d t =>
      rw [encode, List.flatMap_cons, encodeChar] at h
      split at h
      · have hpos : 0 < (String.utf8EncodeChar d).length := by
          rw [String.length_utf8EncodeChar]
          exact d.utf8Size_pos
        obtain ⟨b, bytes, hbytes⟩ := List.exists_cons_of_length_pos hpos
        rw [hbytes] at h
        exact .inl (Option.some.inj h).symm
      · exact .inr h

end UrlMatch.Percent
