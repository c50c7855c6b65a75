import UrlMatch.Text

/-!
# Characters and pieces of texts

Facts about the capital letters of ASCII are looked up for each of them (`forall_capital`). The
pieces that a text is cut into hold its characters, apart from the ones at which it is cut, and
joining pieces adds only the separator. Behind the last separator stands what has none. What holds
of all texts can be proved piece by piece (`piecewise_induction`).
-/

namespace UrlMatch.Text

/-! ### Characters -/

/-- A property of the characters of a text, looked up for each of them. -/
theorem forall_mem_of_all {P : Char → Prop} [DecidablePred P] {t : Text}
    (h : t.all fun c => decide (P c)) : ∀ c ∈ t, P c :=
  fun c hc => of_decide_eq_true (List.all_eq_true.1 h c hc)

/-- A property of the characters of ASCII, looked up for each of them. -/
theorem forall_ascii (P : Char → Prop) (h : ∀ n ∈ List.range 128, P (Char.ofNat n)) (c : Char)
    (hc : c.toNat < 128) : P c := by
  rw [← Char.ofNat_toNat c]
  exact h _ (List.mem_range.2 hc)

/-- A property of the capital letters of ASCII, looked up for each of them. -/
theorem forall_capital (P : Char → Prop) (h : ∀ n ∈ List.range' 65 26, P (Char.ofNat n)) (c : Char)
    (hc : c.isUpper) : P c := by
  obtain ⟨hfrom, hto⟩ := of_decide_eq_true hc
  have hrange : c.toNat ∈ List.range' 65 26 :=
    List.mem_range'_1.2 ⟨UInt32.le_iff_toNat_le.1 hfrom,
      Nat.lt_succ_of_le (UInt32.le_iff_toNat_le.1 hto)⟩
  rw [← Char.ofNat_toNat c]
  exact h _ hrange

/-- A property of the decimal digits, looked up for each of them. -/
theorem forall_digit (P : Char → Prop) (h : ∀ n ∈ List.range' 48 10, P (Char.ofNat n)) (c : Char)
    (hc : c.isDigit) : P c := by
  have hrange : '0'.toNat ≤ c.toNat ∧ c.toNat ≤ '9'.toNat := by
    simpa [Char.isDigit, UInt32.le_iff_toNat_le] using hc
  rw [← Char.ofNat_toNat c]
  exact h _ (List.mem_range'_1.2 ⟨hrange.1, Nat.lt_succ_of_le hrange.2⟩)

/-- Letters and digits are characters of ASCII. -/
theorem toNat_lt_of_isAlphanum {c : Char} (h : c.isAlphanum) : c.toNat < 128 := by
  rcases Bool.or_eq_true_iff.1 h with hletter | hdigit
  · rcases Bool.or_eq_true_iff.1 hletter with hupper | hlower
    · exact Nat.lt_of_le_of_lt (of_decide_eq_true hupper).2 (by decide)
    · have hle := of_decide_eq_true (Bool.and_eq_true_iff.1 hlower).2
      exact Nat.lt_of_le_of_lt hle (by decide)
  · have hle := of_decide_eq_true (Bool.and_eq_true_iff.1 hdigit).2
    exact Nat.lt_of_le_of_lt hle (by decide)

/-- Only capital letters have another lower case. -/
theorem toLower_eq_self {c : Char} (h : c.isUpper = false) : c.toLower = c :=
  dif_neg (of_decide_eq_false h)

theorem isUpper_toLower (c : Char) : c.toLower.isUpper = false := by
  by_cases h : c.isUpper
  · exact forall_capital (fun c => c.toLower.isUpper = false) (by decide) c h
  · rw [toLower_eq_self (by simpa using h)]
    simpa using h

/-- Text without capital letters is in lower case. -/
theorem asciiLower_eq_self {t : Text} (h : ∀ c ∈ t, c.isUpper = false) : asciiLower t = t := by
  induction t with
  | nil => rfl
  | cons c t ih =>
      obtain ⟨hc, ht⟩ := List.forall_mem_cons.1 h
      have hstep : asciiLower (c :: t) = c.toLower :: asciiLower t := rfl
      rw [hstep, toLower_eq_self hc, ih ht]

theorem asciiLower_asciiLower (t : Text) : asciiLower (asciiLower t) = asciiLower t := by
  refine asciiLower_eq_self fun c hc => ?_
  obtain ⟨d, -, rfl⟩ := List.mem_map.1 hc
  exact isUpper_toLower d

/-- What holds of the capital letters only together with their lower case holds of a text in lower
case if it holds of the text. -/
theorem forall_mem_asciiLower {P : Char → Prop} {t : Text} (h : ∀ c ∈ t, P c)
    (hlower : ∀ n ∈ List.range' 65 26, P (Char.ofNat n) → P (Char.ofNat n).toLower) :
    ∀ c ∈ asciiLower t, P c := by
  intro c hc
  obtain ⟨d, hd, rfl⟩ := List.mem_map.1 hc
  by_cases hupper : d.isUpper
  · exact forall_capital (fun d => P d → P d.toLower) hlower d hupper (h d hd)
  · rw [toLower_eq_self (by simpa using hupper)]
    exact h d hd

/-! ### Pieces -/

variable {p : Char → Bool} {t piece : Text}

theorem splitBy_ne_nil (p : Char → Bool) (t : Text) : splitBy p t ≠ [] := by
  fun_cases splitBy p t <;> simp

/-- The pieces of a text hold characters of the text at which it is not cut. -/
theorem mem_of_mem_splitBy (h : piece ∈ splitBy p t) : ∀ c ∈ piece, c ∈ t ∧ p c = false := by
  induction t generalizing piece with
  | nil =>
      rw [List.mem_singleton.1 h]
      exact fun _ hc => nomatch hc
  | cons d t ih =>
      have hbehind : ∀ {piece}, piece ∈ splitBy p t → ∀ c ∈ piece, c ∈ d :: t ∧ p c = false :=
        fun hpiece c hc => (ih hpiece c hc).imp (List.mem_cons_of_mem _) id
      rw [splitBy] at h
      split at h
      · rcases List.mem_cons.1 h with rfl | h
        · exact fun _ hc => nomatch hc
        · exact hbehind h
      · rename_i hd
        have hd : p d = false := by simpa using hd
        split at h
        · rename_i hnil
          exact absurd hnil (splitBy_ne_nil p t)
        · rename_i first pieces hsplit
          rcases List.mem_cons.1 h with rfl | h
          · refine List.forall_mem_cons.2 ⟨⟨List.mem_cons_self, hd⟩, ?_⟩
            exact hbehind (hsplit ▸ List.mem_cons_self)
          · exact hbehind (hsplit ▸ List.mem_cons_of_mem _ h)

/-- A text that is nowhere cut is its only piece. -/
theorem splitBy_eq_singleton (h : ∀ c ∈ t, p c = false) : splitBy p t = [t] := by
  induction t with
  | nil => rfl
  | cons c t ih =>
      obtain ⟨hc, ht⟩ := List.forall_mem_cons.1 h
      simp [splitBy, hc, ih ht]

/-- The first piece ends where the text is cut for the first time. -/
theorem splitBy_append_cons {c : Char} (h : ∀ d ∈ piece, p d = false) (hc : p c) (t : Text) :
    splitBy p (piece ++ c :: t) = piece :: splitBy p t := by
  induction piece with
  | nil => simp [splitBy, hc]
  | cons d piece ih =>
      obtain ⟨hd, hpiece⟩ := List.forall_mem_cons.1 h
      simp [splitBy, hd, ih hpiece]

/-- A text is cut nowhere, or it is cut for a first time. -/
theorem splitBy_cases (p : Char → Bool) (t : Text) :
    (∀ c ∈ t, p c = false) ∨ ∃ s c rest, t = s ++ c :: rest ∧ (∀ d ∈ s, p d = false) ∧ p c := by
  induction t with
  | nil => exact .inl (List.forall_mem_nil _)
  | cons d t ih =>
      by_cases hd : p d
      · exact .inr ⟨[], d, t, rfl, List.forall_mem_nil _, hd⟩
      · have hd : p d = false := by simpa using hd
        refine ih.imp (fun ht => List.forall_mem_cons.2 ⟨hd, ht⟩) ?_
        rintro ⟨s, c, rest, rfl, hs, hc⟩
        exact ⟨d :: s, c, rest, rfl, List.forall_mem_cons.2 ⟨hd, hs⟩, hc⟩

/-- What holds of a piece, and of a piece in front of a text that it holds of, holds of all
texts. -/
theorem piecewise_induction {motive : Text → Prop}
    (piece : ∀ s, (∀ c ∈ s, p c = false) → motive s)
    (cut : ∀ s c rest, (∀ d ∈ s, p d = false) → p c → motive rest → motive (s ++ c :: rest))
    (t : Text) : motive t := by
  rcases splitBy_cases p t with ht | ⟨s, c, rest, rfl, hs, hc⟩
  · exact piece t ht
  · exact cut s c rest hs hc (piecewise_induction piece cut rest)
termination_by t.length

/-- Where a text is cut depends on its own characters only. -/
theorem splitBy_congr {q : Char → Bool} (h : ∀ c ∈ t, p c = q c) : splitBy p t = splitBy q t := by
  induction t with
  | nil => rfl
  | cons c t ih =>
      obtain ⟨hc, ht⟩ := List.forall_mem_cons.1 h
      rw [splitBy, splitBy, hc, ih ht]

/-- The pieces of a text, joined again, are the text. -/
theorem join_splitBy (c : Char) (t : Text) : join [c] (splitBy (· == c) t) = t := by
  induction t with
  | nil => rfl
  | cons d t ih =>
      rw [splitBy]
      cases hpieces : splitBy (· == c) t with
      | nil => exact absurd hpieces (splitBy_ne_nil _ t)
      | cons piece pieces =>
          rw [hpieces] at ih
          split
          · rename_i hd
            rw [join, ih, eq_of_beq hd]
            rfl
          · cases pieces with
            | nil => exact congrArg (d :: ·) ih
            | cons next pieces => exact congrArg (d :: ·) ih

/-- Joining adds the characters of the separator only. -/
theorem mem_of_mem_join {sep : Text} {pieces : List Text} {c : Char} (h : c ∈ join sep pieces) :
    c ∈ sep ∨ ∃ piece ∈ pieces, c ∈ piece := by
  induction pieces with
  | nil => cases h
  | cons first pieces ih =>
      cases pieces with
      | nil => exact .inr ⟨first, List.mem_cons_self, h⟩
      | cons next pieces =>
          rw [join, List.mem_append, List.mem_append] at h
          rcases h with (h | h) | h
          · exact .inr ⟨first, List.mem_cons_self, h⟩
          · exact .inl h
          · obtain hsep | ⟨piece, hpiece, hc⟩ := ih h
            · exact .inl hsep
            · exact .inr ⟨piece, List.mem_cons_of_mem _ hpiece, hc⟩

/-- Nothing is dropped in front of a text that does not begin with the character. -/
theorem dropLeading_eq_self {c : Char} (h : t.head? ≠ some c) : dropLeading c t = t := by
  cases t with
  | nil => rfl
  | cons d t => exact if_neg fun hd => h (congrArg some hd)

/-- Dropping a leading character changes nothing exactly if it is not there. -/
theorem dropLeading_eq_self_iff {c : Char} : dropLeading c t = t ↔ t.head? ≠ some c := by
  refine ⟨fun h hhead => ?_, dropLeading_eq_self⟩
  obtain ⟨rest, rfl⟩ := List.head?_eq_some_iff.1 hhead
  rw [dropLeading, if_pos rfl] at h
  exact List.cons_ne_self c rest h.symm

/-- What is left of a text is of its characters. -/
theorem mem_of_mem_dropLeading {c d : Char} (h : d ∈ dropLeading c t) : d ∈ t := by
  cases t with
  | nil => exact h
  | cons e t =>
      rw [dropLeading] at h
      split at h
      · exact List.mem_cons_of_mem e h
      · exact h

/-- Where no character is to be dropped, none is. -/
theorem dropWhile_eq_self (h : ∀ c ∈ t, p c = false) : t.dropWhile p = t := by
  cases t with
  | nil => rfl
  | cons c t => exact List.dropWhile_cons_of_neg (by simp [h c List.mem_cons_self])

/-- Dropping leading characters changes nothing exactly if there is none. -/
theorem dropWhile_eq_self_iff {c : Char} : t.dropWhile (· == c) = t ↔ t.head? ≠ some c := by
  refine ⟨fun h hhead => ?_, List.dropWhile_beq_eq_self_of_head?_ne⟩
  have hdropped := List.head?_dropWhile_not (· == c) t
  rw [h, hhead] at hdropped
  simp at hdropped

/-- A text is cut behind the last of its separators. -/
theorem cutAfterLast?_append {c : Char} (front : Text) {tail : Text} (h : c ∉ tail) :
    cutAfterLast? c (front ++ c :: tail) = some (front ++ [c], tail) := by
  have hreverse : ((front ++ c :: tail).reverse.takeWhile (· ≠ c)).reverse = tail := by
    have hall : ∀ d ∈ tail.reverse, decide (d ≠ c) = true := fun d hd => by
      rw [decide_eq_true_eq]
      rintro rfl
      exact h (List.mem_reverse.1 hd)
    rw [List.reverse_append, List.reverse_cons, List.append_assoc,
      List.takeWhile_append_of_pos hall]
    simp
  have hlength : (front ++ c :: tail).length - tail.length = (front ++ [c]).length := by
    simp only [List.length_append, List.length_cons, List.length_nil]
    omega
  rw [cutAfterLast?, if_pos (by simp)]
  simp only [hreverse, hlength]
  rw [show front ++ c :: tail = front ++ [c] ++ tail by simp, List.take_left]

/-- A text in which the separator occurs is cut behind the last one. -/
theorem exists_cutAfterLast? {c : Char} (h : c ∈ t) :
    ∃ front tail, cutAfterLast? c t = some (front ++ [c], tail) ∧ t = front ++ c :: tail ∧
      c ∉ tail := by
  obtain ⟨tail, front, hsplit, hc⟩ := List.eq_append_cons_of_mem (List.mem_reverse.2 h)
  have ht : t = front.reverse ++ c :: tail.reverse := by
    rw [← List.reverse_reverse t, hsplit]
    simp
  have htail : c ∉ tail.reverse := fun hmem => hc (List.mem_reverse.1 hmem)
  exact ⟨front.reverse, tail.reverse, ht ▸ cutAfterLast?_append _ htail, ht, htail⟩
end UrlMatch.Text
