import Mathlib.Algebra.Order.Monoid.Unbundled.Pow
import Mathlib.Order.CompletePartialOrder
import UrlMatch.Proofs.Pattern.Literal

/-!
# Patterns that ignore case

Where case makes no difference, each character of a fixed text stands for its variants, and a
segment is free of the variants of delimiters. The first makes a pattern match more. The second
would make it match less, but for delimiters that have no variants nothing changes: every way of the
parts is still there, so no match is lost.

## Main results

* `isDelimiter_iff_of_isCaseless`: only themselves are variants of caseless delimiters.
* `waysOf_mono`: ignoring case keeps the ways of parts.
* `exists_compile_ignoring_case`: **ignoring case keeps the matches** of a pattern.
-/

namespace UrlMatch

/-! ### Wider ways -/

namespace Regex

variable {permits : Nat → Prop} {L L' : Language Char} {R S R' S' : Way}

theorem counted_mono (h : L ≤ L') : Counted permits L ≤ Counted permits L' := by
  rintro w ⟨n, hn, hw⟩
  exact ⟨n, hn, pow_le_pow_left' h n hw⟩

namespace Way

theorem text_mono {t : Text} (h : L ≤ L') : text t L ≤ text t L' := by
  rintro i j u ⟨⟨w, hw, hprefix, rfl⟩, rfl⟩
  exact ⟨⟨w, h hw, hprefix, rfl⟩, rfl⟩

theorem andThen_mono (hR : R ≤ R') (hS : S ≤ S') : R.andThen S ≤ R'.andThen S' := by
  rintro i j u ⟨k, v, w, hv, hw, rfl⟩
  exact ⟨k, v, w, hR _ _ _ hv, hS _ _ _ hw, rfl⟩

theorem group_mono (hR : R ≤ R') (k : Nat) : R.group k ≤ R'.group k :=
  andThen_mono (le_refl _) (andThen_mono hR (le_refl _))

theorem times_mono (hR : R ≤ R') (n : Nat) : R.times n ≤ R'.times n := by
  induction n with
  | zero => exact le_refl _
  | succ n ih => exact andThen_mono hR ih

theorem repeated_mono (hR : R ≤ R') : R.repeated permits ≤ R'.repeated permits := by
  rintro i j u ⟨n, hn, hu⟩
  exact ⟨n, hn, times_mono hR n _ _ _ hu⟩

end Way

end Regex

/-! ### Characters without case -/

namespace Pattern

open Regex

variable {b : Bool} {d : Text}

/-- A character that differs from no other one in case only. -/
def IsCaseless (c : Char) : Prop := ∀ orbit ∈ Unicode.caseOrbits, c.toNat ∉ orbit

/-- A character without case is the variant of no other one. -/
theorem eq_of_isCaseless {c : Char} {n : Nat} (hc : IsCaseless c)
    (h : c.toNat ∈ Unicode.variants n) : n = c.toNat := by
  rw [Unicode.variants, List.mem_cons] at h
  refine h.elim Eq.symm fun h => ?_
  split at h
  · cases h
  · rename_i orbit hfound
    exact absurd h (hc orbit (List.mem_of_find?_eq_some hfound))

/-- **Only themselves are variants of caseless delimiters.** -/
theorem isDelimiter_iff_of_isCaseless (hd : ∀ c ∈ d, IsCaseless c) {x : Char} :
    IsDelimiter b d x ↔ x ∈ d := by
  cases b with
  | false => exact isDelimiter_false
  | true =>
      have hfolded : IsDelimiter true d x ↔
          ∃ n ∈ Unicode.variants x.toNat, ∃ c ∈ d, n = c.toNat := by
        simp [IsDelimiter, Flags.fold, Flags.plain, Flags.initial, CharClass.holds,
          holds_unionOf]
      rw [hfolded]
      constructor
      · rintro ⟨_, hn, c, hc, rfl⟩
        exact Char.toNat_inj.1 (eq_of_isCaseless (hd c hc) hn) ▸ hc
      · exact fun hx => ⟨_, Unicode.mem_variants_self _, x, hx, rfl⟩

/-- The delimiters of a pattern have no case, unless its component says otherwise. -/
theorem isCaseless_of_mem_defaultDelimiters {c : Char} (hc : c ∈ defaultDelimiters) :
    IsCaseless c := by
  have hall : defaultDelimiters.all fun c =>
      Unicode.caseOrbits.all fun orbit => decide (c.toNat ∉ orbit) := by
    decide +kernel
  intro orbit horbit
  exact of_decide_eq_true (List.all_eq_true.1 (List.all_eq_true.1 hall c hc) orbit horbit)

/-! ### The ways of parts -/

theorem variantsOf_mono (b : Bool) (v : Text) : variantsOf false v ≤ variantsOf b v := by
  rw [variantsOf_false]
  rintro w rfl
  exact mem_variantsOf_self b w

theorem CaptureKind.language_congr (hd : IsDelimiter b d = IsDelimiter false d)
    (kind : CaptureKind) : kind.language b d = kind.language false d := by
  cases kind with
  | segment => rw [language, language, segmentLanguage, segmentLanguage, hd]
  | _ => rfl

namespace Capture

theorem values_mono (hd : IsDelimiter b d = IsDelimiter false d) (c : Capture) :
    c.values false d ≤ c.values b d := by
  simp only [values, c.kind.language_congr hd]
  split
  · exact le_refl _
  · split
    · exact le_refl _
    · have hfixed := mul_le_mul' (variantsOf_mono b c.trail) (variantsOf_mono b c.lead)
      exact mul_le_mul' (le_refl _) (counted_mono (mul_le_mul' hfixed (le_refl _)))

theorem present_mono (hd : IsDelimiter b d = IsDelimiter false d) (c : Capture) (t : Text)
    (k : Nat) : c.present false d t k ≤ c.present b d t k :=
  Way.andThen_mono (Way.text_mono (variantsOf_mono b c.lead))
    (Way.andThen_mono (Way.group_mono (Way.text_mono (c.values_mono hd)) (k + 1))
      (Way.text_mono (variantsOf_mono b c.trail)))

theorem way_mono (hd : IsDelimiter b d = IsDelimiter false d) (c : Capture) (t : Text) (k : Nat) :
    c.way false d t k ≤ c.way b d t k := by
  rw [way, way]
  split
  · exact Way.repeated_mono (c.present_mono hd t k)
  · exact c.present_mono hd t k

end Capture

theorem Part.way_mono (hd : IsDelimiter b d = IsDelimiter false d) (p : Part) (t : Text)
    (k : Nat) : p.way false d t k ≤ p.way b d t k := by
  cases p with
  | fixed value m => exact Way.repeated_mono (Way.text_mono (variantsOf_mono b value))
  | capture c => exact c.way_mono hd t k

/-- **Ignoring case keeps the ways of parts.** -/
theorem waysOf_mono (hd : IsDelimiter b d = IsDelimiter false d) (parts : List Part) (t : Text)
    (k : Nat) : waysOf false d parts t k ≤ waysOf b d parts t k := by
  induction parts generalizing k with
  | nil => exact le_refl _
  | cons p parts ih => exact Way.andThen_mono (p.way_mono hd t k) (ih _)

/-! ### Matches -/

/-- **Ignoring case keeps the matches** of parts without regular expressions of their own. -/
theorem exists_compile_ignoring_case {o : MatchOptions} {parts : List Part} (he : o.toEnd)
    (hd : ∀ c ∈ o.delimiters, IsCaseless c) (hparts : NoCustom parts) :
    ∃ c c', compile { o with sensitive := true } parts = .ok c ∧
      compile { o with sensitive := false } parts = .ok c' ∧ ∀ t, c.isMatch t → c'.isMatch t := by
  have hsame (b : Bool) : IsDelimiter b o.delimiters = IsDelimiter false o.delimiters := by
    funext x
    rw [isDelimiter_iff_of_isCaseless hd, isDelimiter_iff_of_isCaseless hd]
  obtain ⟨r, hcompile, hr⟩ := compile_of_caseless (o := { o with sensitive := true }) he
    (hsame _) hparts
  obtain ⟨r', hcompile', hr'⟩ := compile_of_caseless (o := { o with sensitive := false }) he
    (hsame _) hparts
  refine ⟨_, _, hcompile, hcompile', fun t ht => ?_⟩
  obtain ⟨i, hi, j, u, hmatch⟩ := isMatch_program_iff.1 ht
  have hways := waysOf_mono (hsame true) parts t 0
  have hmono : Matches t r ≤ Matches t r' := by
    rw [hr, hr']
    exact Way.andThen_mono (Way.andThen_mono (le_refl _) hways) (le_refl _)
  exact isMatch_program_iff.2 ⟨i, hi, j, u, hmono i j u hmatch⟩

end Pattern

end UrlMatch
