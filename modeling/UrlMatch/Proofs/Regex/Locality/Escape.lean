import UrlMatch.Proofs.Regex.Reading

/-!
# What a reader looks at

Each part of the reader of expressions takes a piece from the front of a text and judges it by the
piece alone, and by the character behind it. So when a closing parenthesis stands behind the piece,
or still further behind, what follows the parenthesis plays no part. Moreover no piece ends between
a backslash and the character that belongs to it.

There are two exceptions, where the reader looks over the blanks and comments behind a character
that it leaves: a hyphen in a class, and a brace behind `\b`. A reader that looks past the
parenthesis from there goes past it with its next step, so a reader that arrives at the parenthesis
never does.

## Main results

* `skip_local`: blanks and comments are ignored by the piece alone.
* `Escape.read_local`: escapes are read by the piece alone.
-/

namespace UrlMatch.Regex

/-! ### Pieces of a text -/

/-- A text in which each backslash has a character behind it that belongs to it. -/
inductive Whole : Text → Prop
  | nil : Whole []
  | pair (c : Char) {w : Text} : Whole w → Whole ('\\' :: c :: w)
  | single {c : Char} {w : Text} : c ≠ '\\' → Whole w → Whole (c :: w)

namespace Whole

theorem append {v w : Text} (hv : Whole v) (hw : Whole w) : Whole (v ++ w) := by
  induction hv with
  | nil => exact hw
  | pair c _ ih => exact .pair c ih
  | single hc _ ih => exact .single hc ih

/-- A text that ends in no backslash is whole. -/
theorem of_getLast : (w : Text) → (∀ c ∈ w.getLast?, c ≠ '\\') → Whole w
  | [], _ => .nil
  | [c], h => .single (h c rfl) .nil
  | c :: d :: w, h => by
      have hw : ∀ x ∈ w.getLast?, x ≠ '\\' := fun x hx => h x (by simp_all [List.getLast?_cons])
      by_cases hc : c = '\\'
      · exact hc ▸ .pair d (of_getLast w hw)
      · exact .single hc
          (of_getLast (d :: w) fun x hx => h x (by simpa [List.getLast?_cons] using hx))

/-- A text that ends in some other character than a backslash is whole. -/
theorem concat (w : Text) {c : Char} (hc : c ≠ '\\') : Whole (w ++ [c]) :=
  .of_getLast _ (by simpa using hc)

end Whole

/-- Two texts that agree up to a closing parenthesis, behind which `C` and `C'` stand. -/
def Agree (C C' t t' : Text) : Prop := ∃ v, t = v ++ ')' :: C ∧ t' = v ++ ')' :: C'

namespace Agree

variable {C C' t t' : Text}

theorem append (h : Agree C C' t t') (w : Text) : Agree C C' (w ++ t) (w ++ t') := by
  obtain ⟨v, rfl, rfl⟩ := h
  exact ⟨w ++ v, by simp, by simp⟩

theorem head?_eq (h : Agree C C' t t') : t'.head? = t.head? := by
  obtain ⟨v, rfl, rfl⟩ := h
  cases v <;> rfl

theorem ne_nil (h : Agree C C' t t') : t ≠ [] := by
  obtain ⟨v, rfl, rfl⟩ := h
  simp

theorem length_lt (h : Agree C C' t t') : C.length < t.length := by
  obtain ⟨v, rfl, rfl⟩ := h
  simp
  omega

theorem symm (h : Agree C C' t t') : Agree C' C t' t := by
  obtain ⟨v, rfl, rfl⟩ := h
  exact ⟨v, rfl, rfl⟩

/-- In front of the parenthesis the texts agree character by character. -/
theorem of_cons {c : Char} (h : Agree C C' (c :: t) t') (hc : c ≠ ')') :
    ∃ r, t' = c :: r ∧ Agree C C' t r := by
  obtain ⟨v, hv, rfl⟩ := h
  cases v with
  | nil => exact absurd (List.cons.inj hv).1 hc
  | cons d v =>
      obtain ⟨rfl, rfl⟩ := List.cons.inj hv
      exact ⟨_, rfl, v, rfl, rfl⟩

/-- A piece that ends in front of `C` leaves a text that still agrees with another. -/
theorem of_append {w u : Text} (h : Agree C C' (w ++ t) u) (ht : C.length < t.length) :
    ∃ t', u = w ++ t' ∧ Agree C C' t t' := by
  obtain ⟨v, hv, rfl⟩ := h
  obtain ⟨v', rfl, rfl⟩ | ⟨w', rfl, hC⟩ := List.append_eq_append_iff.1 hv
  · exact ⟨_, by simp, v', rfl, rfl⟩
  · cases w' with
    | nil => exact ⟨_, by simp, [], hC.symm, rfl⟩
    | cons d w' =>
        have hlength := congrArg List.length hC
        simp only [List.length_append, List.length_cons] at hlength
        omega

end Agree

/-- A reader takes whole pieces, which it judges by what stands in front of a parenthesis behind
them. -/
def Local (C C' : Text) {α : Type} (p : Text → Option (α × Text)) : Prop :=
  ∀ ⦃t t' t'' : Text⦄ ⦃a : α⦄, p t = some (a, t') → Agree C C' t' t'' →
    ∃ w, Whole w ∧ t = w ++ t' ∧ p (w ++ t'') = some (a, t'')

variable {C C' : Text} {f : Flags}

/-! ### Blanks and comments -/

/-- The first character is ignored or not, whatever stands behind it. Only in a comment may it be a
backslash, and then the comment goes on. -/
theorem dropIgnored_cons (comment : Bool) (c : Char) :
    (∃ next : Bool, (next ∨ c ≠ '\\') ∧ ∀ t, dropIgnored comment (c :: t) = dropIgnored next t) ∨
      (¬ comment ∧ ∀ t, dropIgnored comment (c :: t) = c :: t) := by
  have hbackslash : Unicode.isBlank '\\' = false := by decide
  by_cases hcomment : comment
  · refine .inl ⟨c != '\n', ?_, fun t => by simp [dropIgnored, hcomment]⟩
    by_cases hc : c = '\n' <;> simp [hc]
  · by_cases hblank : Unicode.isBlank c
    · refine .inl ⟨false, .inr ?_, fun t => by simp [dropIgnored, hcomment, hblank]⟩
      rintro rfl
      simp [hbackslash] at hblank
    · by_cases hhash : c = '#'
      · exact .inl ⟨true, .inl rfl, fun t => by rw [dropIgnored, if_neg hcomment, if_neg hblank,
          if_pos hhash]⟩
      · exact .inr ⟨hcomment, fun t => by simp [dropIgnored, hcomment, hblank, hhash]⟩

/-- What is ignored ends in no backslash, and depends on the character behind it only. -/
theorem dropIgnored_local {comment : Bool} {t : Text} (ht : dropIgnored comment t ≠ []) :
    ∃ w, (comment → w ≠ []) ∧ (∀ c ∈ w.getLast?, c ≠ '\\') ∧ t = w ++ dropIgnored comment t ∧
      ∀ u, u.head? = (dropIgnored comment t).head? → dropIgnored comment (w ++ u) = u := by
  induction t generalizing comment with
  | nil => exact absurd rfl ht
  | cons c t ih =>
      rcases dropIgnored_cons comment c with ⟨next, hc, hnext⟩ | ⟨hcomment, hstay⟩
      · rw [hnext] at ht ⊢
        obtain ⟨w, hne, hlast, ht', hw⟩ := ih ht
        refine ⟨c :: w, by simp, ?_, by rw [List.cons_append, ← ht'], fun u hu => ?_⟩
        · cases w with
          | nil => simpa using hc.resolve_left fun h => hne h rfl
          | cons d w => simpa [List.getLast?_cons] using hlast
        · rw [List.cons_append, hnext, hw u hu]
      · rw [hstay]
        refine ⟨[], fun h => absurd h hcomment, by simp, rfl, fun u hu => ?_⟩
        cases u with
        | nil => simp at hu
        | cons d u =>
            obtain rfl : d = c := by simpa using hu
            exact hstay u

/-- What is ignored is whole, and depends on the character behind it only. -/
theorem skip_head {t : Text} (ht : f.skip t ≠ []) : ∃ w, Whole w ∧ t = w ++ f.skip t ∧
    ∀ u, u.head? = (f.skip t).head? → f.skip (w ++ u) = u := by
  by_cases hx : f.extended
  · simp only [Flags.skip, hx, if_true] at ht ⊢
    obtain ⟨w, -, hlast, ht', hw⟩ := dropIgnored_local ht
    exact ⟨w, .of_getLast w hlast, ht', hw⟩
  · exact ⟨[], .nil, by simp [Flags.skip, hx], fun u _ => by simp [Flags.skip, hx]⟩

/-- Where what is ignored ends in front of a parenthesis, what stands behind it plays no part. -/
theorem skip_local {t u : Text} (h : Agree C C' (f.skip t) u) :
    ∃ w, Whole w ∧ t = w ++ f.skip t ∧ f.skip (w ++ u) = u := by
  obtain ⟨w, hw, ht, hskip⟩ := skip_head h.ne_nil
  exact ⟨w, hw, ht, hskip u h.head?_eq⟩

theorem cons_of_head?_eq {t u r : Text} {c : Char} (h : u.head? = t.head?) (hu : u = c :: r) :
    ∃ r', t = c :: r' :=
  List.head?_eq_some_iff.1 (by rw [← h, hu, List.head?_cons])

/-- Texts that agree still do so behind what is ignored, where this ends in front of the
parenthesis. -/
theorem Agree.skip {t u : Text} (h : Agree C C' t u) (ht : C.length < (f.skip t).length) :
    Agree C C' (f.skip t) (f.skip u) := by
  have hne : f.skip t ≠ [] := List.ne_nil_of_length_pos (by omega)
  obtain ⟨w, -, hw, hskip⟩ := skip_head hne
  obtain ⟨u, rfl, hagree⟩ := Agree.of_append (hw ▸ h) ht
  rwa [hskip u hagree.head?_eq]

/-- What is ignored behind the character `c`, if a text starts with it, ends in front of the
parenthesis that `C` stands behind. -/
def Clear (c : Char) (f : Flags) (C t : Text) : Prop :=
  ∀ rest, t = c :: rest → C.length < (f.skip rest).length

/-- Texts start with the same character behind a piece if they do so without it. -/
theorem head?_append_congr {w t u : Text} (h : u.head? = t.head?) :
    (w ++ u).head? = (w ++ t).head? := by
  cases w with
  | nil => exact h
  | cons c w => rfl

/-! ### Escapes -/

namespace Escape

theorem readHex_local (count value : Nat) : Local C C' (readHex f count value) := by
  intro t t' t'' a h hagree
  induction count generalizing value t with
  | zero =>
      cases h
      exact ⟨[], .nil, rfl, rfl⟩
  | succ n ih =>
      cases t with
      | nil => simp [readHex] at h
      | cons c rest =>
          rw [readHex] at h
          cases hd : hexValue? c with
          | none => simp [hd] at h
          | some d =>
              simp only [hd] at h
              have hbackslash : hexValue? '\\' = none := by decide
              have hc : c ≠ '\\' := by
                rintro rfl
                simp [hbackslash] at hd
              obtain ⟨w, hw, hrest, hlocal⟩ := ih _ h
              obtain ⟨v, hv, hrest', hskip⟩ := skip_local (hrest ▸ hagree.append w)
              refine ⟨c :: (v ++ w), .single hc (hv.append hw), ?_, ?_⟩
              · rw [List.cons_append, List.append_assoc, ← hrest, ← hrest']
              · rw [List.cons_append, List.append_assoc, readHex]
                simp only [hd, hskip, hlocal]

/-- A text in braces is read up to the brace, whatever stands behind it. -/
theorem readBraced_local {t name t' : Text} (h : readBraced f t = some (name, t')) :
    ∃ w, t = w ++ '\x7d' :: t' ∧ ∀ u, readBraced f (w ++ '\x7d' :: u) = some (name, u) ∧
      (f.skip (w ++ '\x7d' :: u)).head? = (f.skip t).head? := by
  fun_induction readBraced f t generalizing name with
  | case1 t hskip => simp at h
  | case2 t rest hskip =>
      cases h
      obtain ⟨w, -, ht, hw⟩ := skip_head (f := f) (t := t) (by simp [hskip])
      refine ⟨w, hskip ▸ ht, fun u => ?_⟩
      rw [readBraced, hw _ (by simp [hskip]), hskip]
      simp
  | case3 t c rest hskip hc hlt ih =>
      obtain ⟨⟨name, behind⟩, hread, hresult⟩ := Option.map_eq_some_iff.1 h
      cases hresult
      obtain ⟨v, hrest, hv⟩ := ih hread
      obtain ⟨w, -, ht, hw⟩ := skip_head (f := f) (t := t) (by simp [hskip])
      refine ⟨w ++ c :: v, ?_, fun u => ?_⟩
      · rw [ht, hskip, hrest, List.append_assoc]
        rfl
      · rw [List.append_assoc, List.cons_append, readBraced, hw _ (by simp [hskip]), hskip]
        simp [hc, (hv u).1]
        omega
  | case4 => simp at h

theorem readNumber_local (count : Nat) : Local C C' (readNumber f count) := by
  intro t t' t'' e h hagree
  rw [readNumber] at h
  split at h
  · simp at h
  · rename_i rest hskip
    simp only [Option.bind_eq_bind, Option.bind_eq_some_iff] at h
    obtain ⟨⟨digits, behind⟩, hread, h⟩ := h
    obtain ⟨v, rfl, hv⟩ := readBraced_local hread
    by_cases hdigits : digits = []
    · simp [hdigits] at h
    · simp only [hdigits, if_false, Option.bind_eq_some_iff] at h
      obtain ⟨values, hvalues, c, hc, ⟨⟩⟩ := h
      obtain ⟨u, hu, hbehind, hu'⟩ := skip_local hagree
      obtain ⟨w, hw, ht, hw'⟩ := skip_head (f := f) (t := t) (by simp [hskip])
      refine ⟨w ++ ('\x7b' :: v ++ ['\x7d']) ++ u,
        (hw.append (.concat _ (by decide))).append hu, ?_, ?_⟩
      · simp only [List.append_assoc, List.cons_append, List.nil_append, ← hbehind, ← hskip, ← ht]
      · have hbrace := hw' ('\x7b' :: (v ++ '\x7d' :: (u ++ t''))) (by simp [hskip])
        simp [readNumber, hbrace, hv, hdigits, hvalues, hc, hu']
  · rename_i hnil hbrace
    simp only [Option.bind_eq_bind, Option.bind_eq_some_iff] at h
    obtain ⟨⟨value, behind⟩, hread, c, hc, ⟨⟩⟩ := h
    obtain ⟨u, hu, hskip, hread'⟩ := readHex_local _ _ hread hagree
    obtain ⟨w, hw, ht, hw'⟩ := skip_local (hskip ▸ hagree.append u)
    have hhead : (u ++ t'').head? = (f.skip t).head? :=
      hskip ▸ head?_append_congr hagree.head?_eq
    refine ⟨w ++ u, hw.append hu, by rw [List.append_assoc, ← hskip, ← ht], ?_⟩
    rw [readNumber, List.append_assoc, hw']
    split
    · rename_i hnil'
      exact absurd (List.append_eq_nil_iff.1 hnil').2 hagree.symm.ne_nil
    · rename_i rest hbrace'
      obtain ⟨rest', hrest'⟩ := cons_of_head?_eq hhead hbrace'
      exact absurd hrest' (hbrace rest')
    · simp [hread', hc]

/-- The property behind `p` or `P`. -/
theorem readProperty_local (negated : Bool) : Local C C' (readProperty f negated) := by
  intro t t' t'' e h hagree
  rw [readProperty] at h
  split at h
  · simp at h
  · rename_i rest hskip
    simp only [Option.bind_eq_bind, Option.bind_eq_some_iff] at h
    obtain ⟨⟨name, behind⟩, hread, ⟨c, unequal⟩, hc, ⟨⟩⟩ := h
    obtain ⟨v, rfl, hv⟩ := readBraced_local hread
    obtain ⟨w, hw, ht, hw'⟩ := skip_head (f := f) (t := t) (by simp [hskip])
    refine ⟨w ++ ('\x7b' :: v ++ ['\x7d']), hw.append (.concat _ (by decide)), ?_, ?_⟩
    · rw [ht, hskip]
      simp
    · have hbrace := hw' ('\x7b' :: (v ++ '\x7d' :: t'')) (by simp [hskip])
      simp [readProperty, hbrace, hv, hc]
  · simp at h
  · rename_i c rest hbrace hbackslash hskip
    simp only [Option.bind_eq_bind, Option.bind_eq_some_iff] at h
    obtain ⟨⟨cls, unequal⟩, hc, ⟨⟩⟩ := h
    obtain ⟨u, hu, hrest, hu'⟩ := skip_local hagree
    obtain ⟨w, hw, ht, hw'⟩ := skip_head (f := f) (t := t) (by simp [hskip])
    refine ⟨w ++ c :: u, hw.append (.single hbackslash hu), ?_, ?_⟩
    · rw [List.append_assoc, List.cons_append, ← hrest, ← hskip, ← ht]
    · have hletter := hw' (c :: (u ++ t'')) (by simp [hskip])
      simp [readProperty, hletter, hu', hc]

/-- The look that the name of a word boundary stands for. -/
def boundary? (name : Text) : Option Escape :=
  if name = "start".toList then some (.look .wordStart)
  else if name = "end".toList then some (.look .wordEnd)
  else if name = "start-half".toList then some (.look .wordStartHalf)
  else if name = "end-half".toList then some (.look .wordEndHalf)
  else none

/-- Behind a brace a letter starts a name. -/
theorem readBoundary_letter {c : Char} {rest r : Text} (hskip : f.skip rest = c :: r)
    (hletter : isBoundaryLetter c) : readBoundary f ('\x7b' :: rest) =
      (readBraced f rest).bind fun r => (boundary? r.1).map (·, r.2) := by
  simp only [readBoundary, hskip, hletter, Bool.not_true, Bool.false_eq_true, if_false,
    Option.bind_eq_bind, boundary?]
  refine congrArg _ (funext fun r => ?_)
  repeat' split
  all_goals rfl

/-- The name of a word boundary. It is no name, and left, if no letter follows the brace. -/
theorem readBoundary_local {t t' t'' : Text} {e : Escape} (h : readBoundary f t = some (e, t'))
    (hagree : Agree C C' t' t'') (hclear : ∀ l, e = .look l → Clear '\x7b' f C t') :
    ∃ w, Whole w ∧ t = w ++ t' ∧ readBoundary f (w ++ t'') = some (e, t'') := by
  by_cases hname : ∃ rest c r, t = '\x7b' :: rest ∧ f.skip rest = c :: r ∧ isBoundaryLetter c
  · obtain ⟨rest, c, r, rfl, hskip, hletter⟩ := hname
    rw [readBoundary_letter hskip hletter] at h
    obtain ⟨⟨name, behind⟩, hread, h⟩ := Option.bind_eq_some_iff.1 h
    obtain ⟨l, hl, ⟨⟩⟩ := Option.map_eq_some_iff.1 h
    obtain ⟨v, rfl, hv⟩ := readBraced_local hread
    obtain ⟨r', hskip'⟩ : ∃ r, f.skip (v ++ '\x7d' :: t'') = c :: r :=
      List.head?_eq_some_iff.1 (by rw [(hv t'').2, hskip, List.head?_cons])
    refine ⟨'\x7b' :: v ++ ['\x7d'], .concat _ (by decide), by simp, ?_⟩
    have hread' := readBoundary_letter hskip' hletter
    rw [(hv t'').1, Option.bind_some, hl] at hread'
    simpa using hread'
  · unfold readBoundary at h
    split at h
    · rename_i rest
      split at h
      · simp at h
      · rename_i c r hskip
        have hletter : isBoundaryLetter c = false := by
          simpa using fun hc => hname ⟨rest, c, r, rfl, hskip, hc⟩
        simp only [hletter, Bool.not_false, if_true, Option.some.injEq, Prod.mk.injEq] at h
        obtain ⟨rfl, rfl⟩ := h
        obtain ⟨u, rfl, hrest⟩ := hagree.of_cons (by decide)
        have hhead := (hrest.skip (hclear _ rfl rest rfl)).head?_eq
        rw [hskip, List.head?_cons, List.head?_eq_some_iff] at hhead
        obtain ⟨u', hu'⟩ := hhead
        exact ⟨[], .nil, rfl, by simp [readBoundary, hu', hletter]⟩
    · rename_i hbrace
      cases h
      refine ⟨[], .nil, rfl, ?_⟩
      unfold readBoundary
      split
      · rename_i rest hrest
        obtain ⟨r, hr⟩ := cons_of_head?_eq hagree.head?_eq hrest
        exact absurd hr (hbrace r)
      · rfl

/-- **What stands behind a backslash is read whatever follows the parenthesis behind it**, unless
the reader of a word boundary looks past this parenthesis. -/
theorem read_local {t t' t'' : Text} {e : Escape} (h : read f t = some (e, t'))
    (hagree : Agree C C' t' t'') (hclear : ∀ l, e = .look l → Clear '\x7b' f C t') :
    ∃ w, Whole ('\\' :: w) ∧ t = w ++ t' ∧ read f (w ++ t'') = some (e, t'') := by
  cases t with
  | nil => simp [read] at h
  | cons c rest =>
      have hletter (ht : rest = t') (hc : ∀ u, read f (c :: u) = some (e, u)) :
          ∃ w, Whole ('\\' :: w) ∧ c :: rest = w ++ t' ∧ read f (w ++ t'') = some (e, t'') :=
        ⟨[c], .pair c .nil, by rw [ht]; rfl, hc t''⟩
      have hmore {p : Text → Option (Escape × Text)} (hc : ∀ u, read f (c :: u) = p u)
          (hp : ∃ w, Whole w ∧ rest = w ++ t' ∧ p (w ++ t'') = some (e, t'')) :
          ∃ w, Whole ('\\' :: w) ∧ c :: rest = w ++ t' ∧ read f (w ++ t'') = some (e, t'') := by
        obtain ⟨w, hw, ht, hp⟩ := hp
        exact ⟨c :: w, .pair c hw, by rw [ht]; rfl, by rw [List.cons_append, hc, hp]⟩
      by_cases hself : standsForItself c
      · simp only [read, hself, if_true, Option.some.injEq, Prod.mk.injEq] at h
        exact hletter h.2 fun u => by simp [read, hself, h.1]
      · unfold read at h
        dsimp only at h
        rw [if_neg hself] at h
        split at h
        · exact hmore (fun u => by simp [read, hself]) (readNumber_local 2 h hagree)
        · exact hmore (fun u => by simp [read, hself]) (readNumber_local 4 h hagree)
        · exact hmore (fun u => by simp [read, hself]) (readNumber_local 8 h hagree)
        · exact hmore (fun u => by simp [read, hself]) (readProperty_local false h hagree)
        · exact hmore (fun u => by simp [read, hself]) (readProperty_local true h hagree)
        any_goals
          cases h
          exact hletter rfl fun u => by simp [read, hself]
        · exact hmore (fun u => by simp [read, hself]) (readBoundary_local h hagree hclear)
        · simp at h

end Escape

end UrlMatch.Regex
