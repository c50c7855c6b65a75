import Mathlib.Computability.Language
import UrlMatch.Proofs.Regex.Matches

/-!
# Languages of ways

A way that passes the words of a language, and nothing else, is determined by the language:
`Way.text`. Such ways follow the algebra of languages, so what a composed expression passes can be
computed. Ways that record slots too are only said to pass a language, `Way.Passes`.

## Main results

* `Way.text_mul`, `Way.text_repeated`: ways composed of words.
* `Way.Passes.andThen`, `Way.Passes.repeated`, `Way.Passes.group`: the same for ways that record.
-/

namespace UrlMatch.Regex

/-! ### Repetition of languages -/

/-- A permitted number of words of a language, one after the other. -/
def Counted (permits : Nat → Prop) (L : Language Char) : Language Char :=
  Set.ofPred fun w => ∃ n, permits n ∧ w ∈ L ^ n

theorem mem_counted {permits : Nat → Prop} {L : Language Char} {w : Text} :
    w ∈ Counted permits L ↔ ∃ n, permits n ∧ w ∈ L ^ n := Iff.rfl

/-- The texts of a single character with a property. -/
def oneOf (p : Char → Prop) : Language Char := Set.ofPred fun w => ∃ x, p x ∧ w = [x]

/-- A number of characters with a property. -/
theorem mem_oneOf_pow {p : Char → Prop} {n : Nat} {w : Text} :
    w ∈ oneOf p ^ n ↔ w.length = n ∧ ∀ x ∈ w, p x := by
  induction n generalizing w with
  | zero => simp +contextual [Language.mem_one]
  | succ n ih =>
      rw [pow_succ', Language.mem_mul]
      constructor
      · rintro ⟨_, ⟨x, hx, rfl⟩, w, hw, rfl⟩
        obtain ⟨hlength, hall⟩ := ih.1 hw
        exact ⟨by simp [hlength], by simpa using ⟨hx, hall⟩⟩
      · rintro ⟨hlength, hall⟩
        cases w with
        | nil => simp at hlength
        | cons x w =>
            rw [List.forall_mem_cons] at hall
            exact ⟨[x], ⟨x, hall.1, rfl⟩, w, ih.2 ⟨by simpa using hlength, hall.2⟩, rfl⟩

/-- Any permitted number of characters with a property. -/
theorem mem_counted_oneOf {permits : Nat → Prop} {p : Char → Prop} {w : Text} :
    w ∈ Counted permits (oneOf p) ↔ permits w.length ∧ ∀ x ∈ w, p x := by
  simp only [mem_counted, mem_oneOf_pow]
  constructor
  · rintro ⟨_, hn, rfl, hall⟩
    exact ⟨hn, hall⟩
  · rintro ⟨hn, hall⟩
    exact ⟨_, hn, rfl, hall⟩

namespace Way

variable {t : Text} {L M : Language Char}

/-! ### Ways made of words -/

/-- To pass a word of a language. -/
def text (t : Text) (L : Language Char) : Way := fun i j u =>
  (∃ w ∈ L, w <+: t.drop i ∧ j = i + w.length) ∧ u = []

/-- A word that is followed by another one. -/
theorem append_isPrefix_drop {a b : Text} {i : Nat} :
    a ++ b <+: t.drop i ↔ a <+: t.drop i ∧ b <+: t.drop (i + a.length) := by
  rw [← List.drop_drop]
  constructor
  · rintro ⟨c, hc⟩
    rw [← hc, List.append_assoc]
    exact ⟨List.prefix_append _ _, by simp⟩
  · rintro ⟨⟨c, hc⟩, hb⟩
    rw [← hc, List.drop_left] at hb
    rw [← hc]
    exact (List.prefix_append_right_inj a).2 hb

theorem text_one : text t 1 = stay := by
  funext i j u
  simp [text, stay, Language.mem_one]

theorem text_mul : text t (L * M) = (text t L).andThen (text t M) := by
  funext i j u
  refine propext ⟨?_, ?_⟩
  · rintro ⟨⟨w, hw, hprefix, rfl⟩, rfl⟩
    obtain ⟨a, ha, b, hb, rfl⟩ := Language.mem_mul.1 hw
    rw [append_isPrefix_drop] at hprefix
    exact ⟨_, [], [], ⟨⟨a, ha, hprefix.1, rfl⟩, rfl⟩,
      ⟨⟨b, hb, hprefix.2, by simp [Nat.add_assoc]⟩, rfl⟩, rfl⟩
  · rintro ⟨_, _, _, ⟨⟨a, ha, hpa, rfl⟩, rfl⟩, ⟨⟨b, hb, hpb, rfl⟩, rfl⟩, rfl⟩
    exact ⟨⟨a ++ b, Language.append_mem_mul ha hb, append_isPrefix_drop.2 ⟨hpa, hpb⟩,
      by simp [Nat.add_assoc]⟩, rfl⟩

theorem text_pow (n : Nat) : text t (L ^ n) = (text t L).times n := by
  induction n with
  | zero => rw [pow_zero, text_one, times]
  | succ n ih => rw [pow_succ', text_mul, ih, times]

theorem text_repeated (permits : Nat → Prop) :
    text t (Counted permits L) = (text t L).repeated permits := by
  funext i j u
  refine propext ⟨?_, ?_⟩
  · rintro ⟨⟨w, ⟨n, hn, hw⟩, hprefix, rfl⟩, rfl⟩
    exact ⟨n, hn, text_pow (t := t) n ▸ ⟨⟨w, hw, hprefix, rfl⟩, rfl⟩⟩
  · rintro ⟨n, hn, h⟩
    rw [← text_pow] at h
    obtain ⟨⟨w, hw, hprefix, rfl⟩, rfl⟩ := h
    exact ⟨⟨w, ⟨n, hn, hw⟩, hprefix, rfl⟩, rfl⟩

end Way

/-- A class passes one of its characters. -/
theorem matches_one (t : Text) (c : CharClass) :
    Matches t (.one c) = .text t (oneOf fun x => c.holds x.toNat) := by
  funext i j u
  refine propext ⟨?_, ?_⟩
  · rintro ⟨⟨x, hx, hc⟩, rfl, rfl⟩
    refine ⟨⟨[x], ⟨x, hc, rfl⟩, ?_, rfl⟩, rfl⟩
    rw [List.drop_eq_getElem_cons (List.getElem?_eq_some_iff.1 hx).1,
      (List.getElem?_eq_some_iff.1 hx).2]
    exact ⟨_, rfl⟩
  · rintro ⟨⟨_, ⟨x, hc, rfl⟩, ⟨rest, hrest⟩, rfl⟩, rfl⟩
    refine ⟨⟨x, ?_, hc⟩, rfl, rfl⟩
    rw [← Nat.add_zero i, ← List.getElem?_drop, ← hrest]
    rfl

namespace Way

variable {t : Text} {L M : Language Char}

/-! ### Ways that record -/

/-- The words on a way, whatever it records, are the ones of a language. -/
def Passes (t : Text) (R : Way) (L : Language Char) : Prop :=
  ∀ i j, (∃ u, R i j u) ↔ ∃ w ∈ L, w <+: t.drop i ∧ j = i + w.length

namespace Passes

variable {R S : Way}

theorem text : Passes t (text t L) L := by
  intro i j
  simp [Way.text]

theorem stay : Passes t stay 1 := text_one (t := t) ▸ text

theorem andThen (hR : Passes t R L) (hS : Passes t S M) : Passes t (R.andThen S) (L * M) := by
  intro i j
  constructor
  · rintro ⟨_, k, u, v, hu, hv, rfl⟩
    obtain ⟨a, ha, hpa, rfl⟩ := (hR i k).1 ⟨u, hu⟩
    obtain ⟨b, hb, hpb, rfl⟩ := (hS _ j).1 ⟨v, hv⟩
    exact ⟨a ++ b, Language.append_mem_mul ha hb, append_isPrefix_drop.2 ⟨hpa, hpb⟩,
      by simp [Nat.add_assoc]⟩
  · rintro ⟨w, hw, hprefix, rfl⟩
    obtain ⟨a, ha, b, hb, rfl⟩ := Language.mem_mul.1 hw
    rw [append_isPrefix_drop] at hprefix
    obtain ⟨u, hu⟩ := (hR i _).2 ⟨a, ha, hprefix.1, rfl⟩
    obtain ⟨v, hv⟩ := (hS _ _).2 ⟨b, hb, hprefix.2, rfl⟩
    exact ⟨v ++ u, _, u, v, hu, by simpa [Nat.add_assoc] using hv, rfl⟩

theorem times (hR : Passes t R L) (n : Nat) : Passes t (R.times n) (L ^ n) := by
  induction n with
  | zero => exact stay
  | succ n ih => exact pow_succ' L n ▸ hR.andThen ih

theorem repeated (hR : Passes t R L) (permits : Nat → Prop) :
    Passes t (R.repeated permits) (Counted permits L) := by
  intro i j
  constructor
  · rintro ⟨u, n, hn, hu⟩
    obtain ⟨w, hw, hprefix⟩ := (hR.times n i j).1 ⟨u, hu⟩
    exact ⟨w, ⟨n, hn, hw⟩, hprefix⟩
  · rintro ⟨w, ⟨n, hn, hw⟩, hprefix⟩
    obtain ⟨u, hu⟩ := (hR.times n i j).2 ⟨w, hw, hprefix⟩
    exact ⟨u, n, hn, hu⟩

theorem mark (slot : Nat) : Passes t (mark slot) 1 := by
  intro i j
  simp [Way.mark, Language.mem_one]

theorem group (hR : Passes t R L) (k : Nat) : Passes t (R.group k) L := by
  have h := (mark (2 * k)).andThen (hR.andThen (mark (2 * k + 1)))
  rwa [one_mul, mul_one] at h

end Passes

end Way

end UrlMatch.Regex
