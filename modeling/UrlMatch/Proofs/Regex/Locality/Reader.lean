import UrlMatch.Proofs.Regex.Locality.Bracket

/-!
# What the reader of expressions looks at

An expression is read up to a closing parenthesis whatever stands behind the parenthesis, if the
reader arrives there at all: groups, repetitions, escapes and classes are read by the pieces that
they take.

## Main results

* `step_local`: a single element is read by its piece alone.
* `Reader.reaches_local`: a reader that arrives at a parenthesis arrives there whatever follows it.
-/

namespace UrlMatch.Regex

variable {C C' : Text} {f : Flags} {s s' : Reader}

/-! ### Groups -/

theorem readFlags_local {seen seen' : List Char} {negative : Bool} {f f' : Flags} {last : Char}
    {t t' : Text} (h : readFlags seen negative f t = some (f', seen', last, t')) :
    ∃ w, w ≠ [] ∧ Whole w ∧ t = w ++ t' ∧
      ∀ u, readFlags seen negative f (w ++ u) = some (f', seen', last, u) := by
  fun_induction readFlags seen negative f t with
  | case1 | case2 | case4 => simp at h
  | case3 seen negative f c rest hc hseen =>
      cases h
      have hne : last ≠ '\\' := by
        rintro rfl
        simp at hc
      exact ⟨[last], by simp, .single hne .nil, rfl, fun u => by simp [readFlags, hc, hseen]⟩
  | case5 seen negative f rest hc hmem ih =>
      obtain ⟨w, -, hw, rfl, hlocal⟩ := ih h
      exact ⟨'-' :: w, by simp, .single (by decide) hw, rfl,
        fun u => by simp [readFlags, hmem, hlocal]⟩
  | case6 => simp at h
  | case7 seen negative f c rest hc hmem hhyphen f1 hupdate ih =>
      obtain ⟨w, -, hw, rfl, hlocal⟩ := ih h
      have hne : c ≠ '\\' := by
        rintro rfl
        simp [Flags.update?] at hupdate
      exact ⟨c :: w, by simp, .single hne hw, rfl,
        fun u => by simp [readFlags, hc, hmem, hhyphen, hupdate, hlocal]⟩

/-- Flags start like no other kind of group. -/
theorem head_ne_of_readFlags {f : Flags} {t : Text} {r : Flags × List Char × Char × Text}
    (h : readFlags [] false f t = some r) {c : Char} (hc : c ∈ ['=', '!', '<', 'P']) :
    t.head? ≠ some c := by
  intro hhead
  obtain ⟨t, rfl⟩ := List.head?_eq_some_iff.1 hhead
  simp only [List.mem_cons, List.not_mem_nil, or_false] at hc
  rcases hc with rfl | rfl | rfl | rfl <;> simp [readFlags, Flags.update?] at h

theorem readGroupName_local {t t' name : Text} (h : readGroupName t = some (name, t')) :
    ∃ w, w ≠ [] ∧ Whole w ∧ t = w ++ t' ∧ ∀ u, readGroupName (w ++ u) = some (name, u) := by
  unfold readGroupName at h
  dsimp only at h
  split at h
  · rename_i first more rest hname hdrop
    split at h
    · rename_i hparts
      rw [hname] at h
      cases h
      have hall : ∀ x ∈ first :: more, decide (x ≠ '>') := fun x hx =>
        List.mem_takeWhile_imp (p := fun x => decide (x ≠ '>')) (hname ▸ hx)
      have ht : t = first :: more ++ '>' :: t' := by
        rw [← hname, ← hdrop]
        exact (List.prefix_iff_eq_append.1 (List.takeWhile_prefix _)).symm
      have htake (u : Text) :
          (first :: more ++ '>' :: u).takeWhile (· ≠ '>') = first :: more := by
        rw [List.takeWhile_append_of_pos hall]
        simp
      refine ⟨first :: more ++ ['>'], by simp, .concat _ (by decide), by simpa using ht,
        fun u => ?_⟩
      have happend : first :: more ++ ['>'] ++ u = first :: more ++ '>' :: u := by simp
      rw [happend]
      simp only [readGroupName, htake, List.drop_left, hparts, if_true]
    · simp at h
  · simp at h

theorem openNamed_local {t t' : Text} (h : openNamed s t = some (s', t')) :
    ∃ w, w ≠ [] ∧ Whole w ∧ t = w ++ t' ∧ ∀ u, openNamed s (w ++ u) = some (s', u) := by
  obtain ⟨⟨name, rest⟩, hname, hresult⟩ := Option.bind_eq_some_iff.1 h
  obtain ⟨w, hne, hw, rfl, hlocal⟩ := readGroupName_local hname
  dsimp only at hresult
  split at hresult
  · simp at hresult
  · rename_i hmem
    cases hresult
    exact ⟨w, hne, hw, rfl, fun u => by simp [openNamed, hlocal, hmem]⟩

/-! The kinds of groups, one by one. -/

theorem readGroup_capture {t : Text} (h : (s.flags.skip t).head? ≠ some '?') :
    readGroup s t = some (s.openCapture, s.flags.skip t) := by
  rw [readGroup]
  split <;> simp_all

theorem readGroup_named {t rest : Text} (h : s.flags.skip t = '?' :: 'P' :: '<' :: rest) :
    readGroup s t = openNamed s rest := by
  rw [readGroup]
  rw [h]
  rfl

theorem readGroup_angle {t rest : Text} (h : s.flags.skip t = '?' :: '<' :: rest)
    (hequal : rest.head? ≠ some '=') (hbang : rest.head? ≠ some '!') :
    readGroup s t = openNamed s rest := by
  rw [readGroup]
  rw [h]
  split <;> grind

/-- Opens a group that records nothing, or sets flags. -/
def applyFlags (s : Reader) (r : Flags × List Char × Char × Text) : Option (Reader × Text) :=
  if r.2.2.1 = ':' then some (s.openGroup none r.1, r.2.2.2)
  else if r.2.1 = [] then none
  else some ({ s with flags := r.1, items := none :: s.items }, r.2.2.2)

theorem applyFlags_local {flags : Flags} {seen : List Char} {last : Char} {t t' : Text}
    (h : applyFlags s (flags, seen, last, t) = some (s', t')) :
    t = t' ∧ ∀ u, applyFlags s (flags, seen, last, u) = some (s', u) := by
  unfold applyFlags at h ⊢
  split at h
  · cases h
    exact ⟨rfl, fun u => by simp_all⟩
  · split at h
    · simp at h
    · cases h
      exact ⟨rfl, fun u => by simp_all⟩

theorem readGroup_flags {t rest : Text} (h : s.flags.skip t = '?' :: rest)
    (hrest : ∀ c ∈ ['=', '!', '<'], rest.head? ≠ some c) (hname : ∀ r, rest ≠ 'P' :: '<' :: r) :
    readGroup s t = (readFlags [] false s.flags rest).bind (applyFlags s) := by
  simp only [List.mem_cons, List.not_mem_nil, or_false, forall_eq_or_imp, forall_eq] at hrest
  rw [readGroup, h]
  -- of the kinds of groups the conditions leave only the one with flags
  split <;> first
    | grind
    | rename_i heq
      cases heq
      rfl

/-- There is no looking around, whether ahead or behind. -/
theorem head_ne_of_readGroup {t v rest : Text} {y : Reader × Text} (h : readGroup s t = some y)
    (hv : v = [] ∨ v = ['<']) (hskip : s.flags.skip t = '?' :: (v ++ rest)) :
    rest.head? ≠ some '=' ∧ rest.head? ≠ some '!' := by
  constructor
  all_goals
    intro hr
    obtain ⟨r, rfl⟩ := List.head?_eq_some_iff.1 hr
    rcases hv with rfl | rfl
    · simp [readGroup, hskip] at h
    · simp [readGroup, hskip] at h

/-- What is read behind a mark is read with the mark, and with what is ignored in front of it. -/
theorem readGroup_marked {t t' t'' rest w : Text} (hskip : s.flags.skip t = '?' :: rest)
    (hw : Whole ('?' :: w)) (hrest : rest = w ++ t')
    (hread : ∀ x, s.flags.skip x = '?' :: (w ++ t'') → readGroup s x = some (s', t'')) :
    ∃ w, Whole w ∧ t = w ++ t' ∧ readGroup s (w ++ t'') = some (s', t'') := by
  obtain ⟨v, hv, ht, hv'⟩ := skip_head (f := s.flags) (t := t) (by simp [hskip])
  refine ⟨v ++ '?' :: w, hv.append hw, ?_, ?_⟩
  · rw [ht, hskip, hrest, List.append_assoc]
    rfl
  · rw [List.append_assoc]
    exact hread _ (hv' _ (by simp [hskip]))

/-- A group with a name is read by the piece. -/
theorem readGroup_angle_local {t t' t'' r : Text} (h : readGroup s t = some (s', t'))
    (hagree : Agree C C' t' t'') (hskip : s.flags.skip t = '?' :: '<' :: r) :
    ∃ w, Whole w ∧ t = w ++ t' ∧ readGroup s (w ++ t'') = some (s', t'') := by
  obtain ⟨hequal, hbang⟩ := head_ne_of_readGroup h (.inr rfl) hskip
  rw [readGroup_angle hskip hequal hbang] at h
  obtain ⟨w, -, hw, rfl, hlocal⟩ := openNamed_local h
  have hhead : (w ++ t'').head? = (w ++ t').head? := head?_append_congr hagree.head?_eq
  rw [← hhead] at hequal hbang
  exact readGroup_marked hskip (.single (by decide) (.single (by decide) hw)) rfl
    fun x hx => (readGroup_angle hx hequal hbang).trans (hlocal t'')

/-- Flags are read by the piece. -/
theorem readGroup_flags_local {t t' t'' rest : Text} (h : readGroup s t = some (s', t'))
    (hagree : Agree C C' t' t'') (hskip : s.flags.skip t = '?' :: rest)
    (hname : ∀ r, rest ≠ 'P' :: '<' :: r) (hangle : rest.head? ≠ some '<') :
    ∃ w, Whole w ∧ t = w ++ t' ∧ readGroup s (w ++ t'') = some (s', t'') := by
  obtain ⟨hequal, hbang⟩ := head_ne_of_readGroup (v := []) h (.inl rfl) hskip
  rw [readGroup_flags hskip (by simp [hequal, hbang, hangle]) hname] at h
  obtain ⟨⟨flags, seen, last, behind⟩, hflags, hopen⟩ := Option.bind_eq_some_iff.1 h
  obtain ⟨rfl, hopen'⟩ := applyFlags_local hopen
  obtain ⟨w, -, hw, rfl, hlocal⟩ := readFlags_local hflags
  have hhead : (w ++ t'').head? = (w ++ behind).head? := head?_append_congr hagree.head?_eq
  have hne := fun c hc => head_ne_of_readFlags hflags (c := c) hc
  simp only [← hhead] at hne
  refine readGroup_marked hskip (.single (by decide) hw) rfl fun x hx => ?_
  rw [readGroup_flags hx (fun c hc => hne c (List.mem_append_left ['P'] hc)), hlocal]
  · exact hopen' t''
  · intro r hr
    exact hne 'P' (by simp) (by rw [hr]; rfl)

/-- **The opening of a group is read whatever follows the parenthesis behind it.** -/
theorem readGroup_local : Local C C' (readGroup s) := by
  intro t t' t'' s' h hagree
  by_cases hmark : (s.flags.skip t).head? = some '?'
  · obtain ⟨rest, hskip⟩ := List.head?_eq_some_iff.1 hmark
    by_cases hname : ∃ r, rest = 'P' :: '<' :: r
    · obtain ⟨r, rfl⟩ := hname
      rw [readGroup_named hskip] at h
      obtain ⟨w, -, hw, rfl, hlocal⟩ := openNamed_local h
      have hmarked : Whole ('?' :: 'P' :: '<' :: w) :=
        .single (by decide) (.single (by decide) (.single (by decide) hw))
      exact readGroup_marked hskip hmarked rfl fun x hx => (readGroup_named hx).trans (hlocal t'')
    · by_cases hangle : rest.head? = some '<'
      · obtain ⟨r, rfl⟩ := List.head?_eq_some_iff.1 hangle
        exact readGroup_angle_local h hagree hskip
      · exact readGroup_flags_local h hagree hskip (fun r hr => hname ⟨r, hr⟩) hangle
  · rw [readGroup_capture hmark] at h
    cases h
    obtain ⟨w, hw, ht, hskip⟩ := skip_local hagree
    refine ⟨w, hw, ht, ?_⟩
    rw [readGroup_capture, hskip]
    rwa [hskip, hagree.head?_eq]

/-! ### Repetitions -/

theorem readRepetition_local (least : Nat) (most : Option Nat) :
    Local C C' (readRepetition s least most) := by
  intro t t' t'' s' h hagree
  by_cases hmark : t.head? = some '?'
  · obtain ⟨rest, rfl⟩ := List.head?_eq_some_iff.1 hmark
    obtain ⟨s1, hs, ⟨⟩⟩ := Option.bind_eq_some_iff.1 h
    exact ⟨['?'], .single (by decide) .nil, rfl, Option.bind_eq_some_iff.2 ⟨s', hs, rfl⟩⟩
  · have hlazy {u : Text} (hu : u.head? ≠ some '?') : takeLazy u = (false, u) := by
      unfold takeLazy
      split
      · simp at hu
      · rfl
    rw [readRepetition, hlazy hmark] at h
    obtain ⟨s1, hs, ⟨⟩⟩ := Option.bind_eq_some_iff.1 h
    refine ⟨[], .nil, rfl, ?_⟩
    rw [List.nil_append, readRepetition, hlazy (hagree.head?_eq ▸ hmark)]
    exact Option.bind_eq_some_iff.2 ⟨s', hs, rfl⟩

theorem dropBlank_local {t u : Text} (h : Agree C C' (t.dropWhile Unicode.isBlank) u) :
    ∃ w, Whole w ∧ t = w ++ t.dropWhile Unicode.isBlank ∧
      (w ++ u).dropWhile Unicode.isBlank = u := by
  induction t with
  | nil => exact absurd rfl h.ne_nil
  | cons c t ih =>
      by_cases hc : Unicode.isBlank c
      · rw [List.dropWhile_cons_of_pos hc] at h ⊢
        obtain ⟨w, hw, ht, hu⟩ := ih h
        have hne : c ≠ '\\' := by
          rintro rfl
          exact absurd hc (by decide)
        refine ⟨c :: w, .single hne hw, by rw [List.cons_append, ← ht], ?_⟩
        rw [List.cons_append, List.dropWhile_cons_of_pos hc, hu]
      · rw [List.dropWhile_cons_of_neg hc] at h ⊢
        obtain ⟨r, rfl⟩ := cons_of_head?_eq h.symm.head?_eq rfl
        exact ⟨[], .nil, rfl, List.dropWhile_cons_of_neg hc⟩

theorem finish_local (sofar : List Nat) : Local C C' (readDecimal.finish sofar) := by
  intro t t' t'' n h hagree
  unfold readDecimal.finish at h ⊢
  dsimp only at h ⊢
  split at h
  · simp at h
  · rename_i hbound
    cases h
    obtain ⟨w, hw, ht, hdrop⟩ := dropBlank_local hagree
    exact ⟨w, hw, ht, by rw [if_neg hbound, hdrop]⟩

theorem digits_local (sofar : List Nat) : Local C C' (readDecimal.digits f sofar) := by
  intro t t' t'' n h hagree
  fun_induction readDecimal.digits f sofar t with
  | case1 sofar =>
      obtain ⟨w, hw, ht, -⟩ := finish_local sofar h hagree
      exact absurd (List.append_eq_nil_iff.1 ht.symm).2 hagree.ne_nil
  | case2 sofar c rest hdigit ih =>
      obtain ⟨w, hw, hskip, hlocal⟩ := ih h
      obtain ⟨v, hv, hrest, hskip'⟩ := skip_local (hskip ▸ hagree.append w)
      have hne : c ≠ '\\' := by
        rintro rfl
        exact absurd hdigit (by decide)
      refine ⟨c :: (v ++ w), .single hne (hv.append hw), ?_, ?_⟩
      · rw [List.cons_append, List.append_assoc, ← hskip, ← hrest]
      · rw [List.cons_append, List.append_assoc, readDecimal.digits, if_pos hdigit, hskip', hlocal]
  | case3 sofar c rest hdigit =>
      obtain ⟨w, hw, ht, hlocal⟩ := finish_local sofar h hagree
      refine ⟨w, hw, ht, ?_⟩
      have hhead : (w ++ t'').head? = some c := by
        rw [head?_append_congr hagree.head?_eq, ← ht]
        rfl
      obtain ⟨r, hr⟩ := List.head?_eq_some_iff.1 hhead
      rw [hr, readDecimal.digits, if_neg hdigit, ← hr, hlocal]

theorem readDecimal_local : Local C C' (readDecimal f) := by
  intro t t' t'' n h hagree
  obtain ⟨w, hw, hdrop, hlocal⟩ := digits_local [] h hagree
  obtain ⟨v, hv, ht, hdrop'⟩ := dropBlank_local (hdrop ▸ hagree.append w)
  refine ⟨v ++ w, hv.append hw, by rw [List.append_assoc, ← hdrop, ← ht], ?_⟩
  rw [List.append_assoc, readDecimal, hdrop', hlocal]

/-- Reads the closing brace behind both bounds of a repetition. -/
def closeBounds (least most : Nat) : Text → Option (Nat × Option Nat × Text)
  | '\x7d' :: rest => if least ≤ most then some (least, some most, rest) else none
  | _ => none

/-- Reads the greater bound of a repetition up to the closing brace. -/
def readMost (f : Flags) (least : Nat) (t : Text) : Option (Nat × Option Nat × Text) :=
  match t with
  | '\x7d' :: rest => some (least, none, rest)
  | t => (readDecimal f t).bind fun r => closeBounds least r.1 r.2

/-- Reads what stands behind the smaller bound of a repetition. -/
def afterLeast (f : Flags) (least : Nat) (t : Text) : Option (Nat × Option Nat × Text) :=
  match t with
  | '\x7d' :: rest => some (least, some least, rest)
  | ',' :: rest => readMost f least (f.skip rest)
  | _ => none

theorem readBounds_eq (t : Text) :
    readBounds f t = (readDecimal f (f.skip t)).bind fun r => afterLeast f r.1 r.2 :=
  rfl

theorem closeBounds_local {least most : Nat} {n : Nat} {m : Option Nat} {t t' : Text}
    (h : closeBounds least most t = some (n, m, t')) :
    t = '\x7d' :: t' ∧ ∀ u, closeBounds least most ('\x7d' :: u) = some (n, m, u) := by
  unfold closeBounds at h
  split at h
  · split at h
    · rename_i hle
      cases h
      exact ⟨rfl, fun u => by simp [closeBounds, hle]⟩
    · simp at h
  · simp at h

theorem readMost_of_head_ne {least : Nat} {t : Text} (h : t.head? ≠ some '\x7d') :
    readMost f least t = (readDecimal f t).bind fun r => closeBounds least r.1 r.2 := by
  unfold readMost
  split
  · simp at h
  · rfl

theorem readMost_local {least : Nat} {n : Nat} {m : Option Nat} {t t' t'' : Text}
    (h : readMost f least t = some (n, m, t')) (hagree : Agree C C' t' t'') :
    ∃ w, Whole w ∧ t = w ++ t' ∧ readMost f least (w ++ t'') = some (n, m, t'') := by
  by_cases hbrace : t.head? = some '\x7d'
  · obtain ⟨rest, rfl⟩ := List.head?_eq_some_iff.1 hbrace
    cases h
    exact ⟨['\x7d'], .single (by decide) .nil, rfl, rfl⟩
  · rw [readMost_of_head_ne hbrace] at h
    obtain ⟨⟨most, behind⟩, hread, h⟩ := Option.bind_eq_some_iff.1 h
    obtain ⟨rfl, hclose⟩ := closeBounds_local h
    obtain ⟨w, hw, rfl, hlocal⟩ := readDecimal_local hread (hagree.append ['\x7d'])
    refine ⟨w ++ ['\x7d'], hw.append (.single (by decide) .nil), by simp, ?_⟩
    have hhead : (w ++ (['\x7d'] ++ t'')).head? = (w ++ '\x7d' :: t').head? :=
      head?_append_congr rfl
    rw [← hhead] at hbrace
    rw [List.append_assoc, readMost_of_head_ne hbrace, hlocal]
    exact hclose t''

theorem afterLeast_local {least : Nat} {n : Nat} {m : Option Nat} {t t' t'' : Text}
    (h : afterLeast f least t = some (n, m, t')) (hagree : Agree C C' t' t'') :
    ∃ w, Whole w ∧ t = w ++ t' ∧ afterLeast f least (w ++ t'') = some (n, m, t'') := by
  unfold afterLeast at h
  split at h
  · cases h
    exact ⟨['\x7d'], .single (by decide) .nil, rfl, rfl⟩
  · rename_i rest
    obtain ⟨w, hw, hskip, hlocal⟩ := readMost_local h hagree
    obtain ⟨v, hv, hrest, hskip'⟩ := skip_local (hskip ▸ hagree.append w)
    refine ⟨',' :: (v ++ w), .single (by decide) (hv.append hw), ?_, ?_⟩
    · rw [List.cons_append, List.append_assoc, ← hskip, ← hrest]
    · rw [List.cons_append, List.append_assoc]
      simp only [afterLeast, hskip', hlocal]
  · simp at h

/-- The bounds of a repetition are read whatever follows the parenthesis behind them. -/
theorem readBounds_local {n : Nat} {m : Option Nat} {t t' t'' : Text}
    (h : readBounds f t = some (n, m, t')) (hagree : Agree C C' t' t'') :
    t'.length ≤ (f.skip t).length ∧
      ∃ w, Whole w ∧ t = w ++ t' ∧ readBounds f (w ++ t'') = some (n, m, t'') := by
  rw [readBounds_eq] at h
  obtain ⟨⟨least, behind⟩, hread, h⟩ := Option.bind_eq_some_iff.1 h
  obtain ⟨w, hw, rfl, hlocal⟩ := afterLeast_local h hagree
  obtain ⟨v, hv, hskip, hread'⟩ := readDecimal_local hread (hagree.append w)
  have hagree' : Agree C C' (f.skip t) (v ++ (w ++ t'')) := hskip ▸ (hagree.append w).append v
  obtain ⟨u, hu, ht, hskip'⟩ := skip_local hagree'
  refine ⟨?_, u ++ (v ++ w), hu.append (hv.append hw), ?_, ?_⟩
  · rw [hskip]
    simp only [List.length_append]
    omega
  · rw [ht, hskip]
    simp
  · rw [List.append_assoc, List.append_assoc, readBounds_eq, hskip', hread', Option.bind_some]
    exact hlocal

/-! ### Elements -/

/-- An opening brace is never ignored. -/
theorem skip_brace (f : Flags) (t : Text) : f.skip ('\x7b' :: t) = '\x7b' :: t := by
  have h : Unicode.isBlank '\x7b' = false := by decide
  simp [Flags.skip, dropIgnored, h]

/-- What a repetition in braces takes behind the bounds is judged by the piece. -/
theorem agree_of_repetition {least : Nat} {most : Option Nat} {t t' t'' : Text}
    (h : readRepetition s least most (s.flags.skip t) = some (s', t'))
    (hagree : Agree C C' t' t'') :
    ∃ v u, Whole (v ++ u) ∧ t = v ++ (u ++ t') ∧ Agree C C' t (v ++ (u ++ t'')) ∧
      readRepetition s least most (s.flags.skip (v ++ (u ++ t''))) = some (s', t'') := by
  obtain ⟨u, hu, hskip, hlocal⟩ := readRepetition_local least most h hagree
  obtain ⟨v, hv, ht, hskip'⟩ := skip_local (hskip ▸ hagree.append u)
  rw [hskip] at ht
  refine ⟨v, u, hv.append hu, ht, ?_, ?_⟩
  · rw [ht]
    exact (hagree.append u).append v
  · rwa [hskip']

/-- **A single element is read whatever follows the parenthesis behind it.** -/
theorem step_local {t t' t'' : Text} (h : step s t = some (s', t')) (hagree : Agree C C' t' t'')
    (hclear : Clear '\x7b' s'.flags C t') :
    ∃ w, w ≠ [] ∧ Whole w ∧ t = w ++ t' ∧ step s (w ++ t'') = some (s', t'') := by
  have hmore {c : Char} {rest : Text} {p : Text → Option (Reader × Text)} (hc : c ≠ '\\')
      (hp : Local C C' p) (hs : ∀ u, step s (c :: u) = p u) (ht : t = c :: rest) :
      ∃ w, w ≠ [] ∧ Whole w ∧ t = w ++ t' ∧ step s (w ++ t'') = some (s', t'') := by
    subst ht
    obtain ⟨w, hw, rfl, hlocal⟩ := hp (hs rest ▸ h) hagree
    exact ⟨c :: w, by simp, .single hc hw, rfl, by rw [List.cons_append, hs, hlocal]⟩
  have hone {c : Char} {rest : Text} (hc : c ≠ '\\') (hrest : rest = t')
      (hs : step s (c :: t'') = some (s', t'')) (ht : t = c :: rest) :
      ∃ w, w ≠ [] ∧ Whole w ∧ t = w ++ t' ∧ step s (w ++ t'') = some (s', t'') :=
    ⟨[c], by simp, .single hc .nil, by rw [ht, hrest]; rfl, hs⟩
  unfold step at h
  split at h
  · simp at h
  · exact hmore (by decide) readGroup_local (fun u => rfl) rfl
  · obtain ⟨s1, hs, ⟨⟩⟩ := Option.map_eq_some_iff.1 h
    exact hone (by decide) rfl (by simp [step, hs]) rfl
  · cases h
    exact hone (by decide) rfl rfl rfl
  · rename_i rest
    obtain ⟨⟨c, behind⟩, hread, ⟨⟩⟩ := Option.map_eq_some_iff.1 h
    obtain ⟨w, hw, rfl, hlocal⟩ := Bracket.read_local hread hagree
    exact ⟨'[' :: w, by simp, .single (by decide) hw, rfl, by simp [step, hlocal]⟩
  · exact hmore (by decide) (readRepetition_local 0 (some 1)) (fun u => rfl) rfl
  · exact hmore (by decide) (readRepetition_local 0 none) (fun u => rfl) rfl
  · exact hmore (by decide) (readRepetition_local 1 none) (fun u => rfl) rfl
  · rename_i rest
    obtain ⟨⟨least, most, behind⟩, hbounds, hrepetition⟩ := Option.bind_eq_some_iff.1 h
    obtain ⟨v, u, hvu, hbehind, hagree', hrepetition'⟩ := agree_of_repetition hrepetition hagree
    obtain ⟨-, w, hw, ht, hbounds'⟩ := readBounds_local hbounds hagree'
    refine ⟨'\x7b' :: (w ++ (v ++ u)), by simp, .single (by decide) (hw.append hvu), ?_, ?_⟩
    · rw [ht, hbehind]
      simp
    · simp only [step, List.cons_append, List.append_assoc, hbounds', Option.bind_eq_bind,
        Option.bind_some, hrepetition']
  · rename_i rest
    obtain ⟨⟨e, behind⟩, hread, h⟩ := Option.bind_eq_some_iff.1 h
    obtain ⟨r, hr, ⟨⟩⟩ := Option.bind_eq_some_iff.1 h
    obtain ⟨w, hw, rfl, hlocal⟩ := Escape.read_local hread hagree fun _ _ => hclear
    exact ⟨'\\' :: w, by simp, hw, rfl, by simp [step, hlocal, hr]⟩
  · obtain ⟨r, hr, ⟨⟩⟩ := Option.map_eq_some_iff.1 h
    exact hone (by decide) rfl (by simp [step, hr]) rfl
  · cases h
    exact hone (by decide) rfl rfl rfl
  · cases h
    exact hone (by decide) rfl rfl rfl
  · rename_i c rest _ _ _ _ _ _ _ _ hc _ _ _
    obtain ⟨r, hr, ⟨⟩⟩ := Option.map_eq_some_iff.1 h
    refine hone hc rfl ?_ rfl
    unfold step
    split <;> simp_all

/-! ### Runs -/

namespace Reader

theorem goes_local {t t' t'' : Text} (h : Goes (s, t) (s', t')) (hagree : Agree C C' t' t'')
    (hclear : Clear '\x7b' s'.flags C t') :
    ∃ w, Whole w ∧ t = w ++ t' ∧ Goes (s, w ++ t'') (s', t'') := by
  obtain ⟨w, hne, hw, hskip, hstep⟩ := step_local h.1 hagree hclear
  obtain ⟨v, hv, ht, hskip'⟩ := skip_local (hskip ▸ hagree.append w)
  refine ⟨v ++ w, hv.append hw, ?_, ?_, ?_⟩
  · rw [List.append_assoc, ← hskip]
    exact ht
  · dsimp only
    rw [List.append_assoc, hskip', hstep]
  · have hpos := List.length_pos_iff.2 hne
    simp only [List.length_append]
    omega

/-- A repetition that ends in front of the parenthesis looks past nothing. -/
theorem clear_of_goes {t t' u : Text} (h : Goes (s, t) (s', t')) (hagree : Agree C C' t' u) :
    Clear '\x7b' s.flags C t := by
  rintro rest rfl
  have hstep := h.1
  rw [skip_brace] at hstep
  obtain ⟨⟨least, most, behind⟩, hbounds, hrepetition⟩ := Option.bind_eq_some_iff.1 hstep
  obtain ⟨_, _, -, -, hagree', -⟩ := agree_of_repetition hrepetition hagree
  exact Nat.lt_of_lt_of_le hagree'.length_lt (readBounds_local hbounds hagree').1

/-- **A reader that arrives at a parenthesis arrives there whatever follows it.** -/
theorem reaches_local {x : Reader × Text} (h : Reaches x (s', ')' :: C)) (C' : Text) :
    Clear '\x7b' x.1.flags C x.2 ∧ ∃ v, Whole v ∧ x.2 = v ++ ')' :: C ∧
      Reaches (x.1, v ++ ')' :: C') (s', ')' :: C') := by
  induction h using Relation.ReflTransGen.head_induction_on with
  | refl => exact ⟨by simp [Clear], [], .nil, rfl, .refl⟩
  | @head x y hgoes _ ih =>
      obtain ⟨s, t⟩ := x
      obtain ⟨s1, t1⟩ := y
      obtain ⟨hclear, v, hv, rfl, hreaches⟩ := ih
      have hagree : Agree C C' (v ++ ')' :: C) (v ++ ')' :: C') := ⟨v, rfl, rfl⟩
      obtain ⟨w, hw, rfl, hgoes'⟩ := goes_local hgoes hagree hclear
      refine ⟨clear_of_goes hgoes hagree, w ++ v, hw.append hv, by simp, ?_⟩
      rw [List.append_assoc]
      exact .head hgoes' hreaches

end Reader

end UrlMatch.Regex
