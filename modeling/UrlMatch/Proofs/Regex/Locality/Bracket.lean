import Mathlib.Data.List.TakeWhile
import UrlMatch.Proofs.Regex.Locality.Escape
import UrlMatch.Regex.Bracket

/-!
# What a reader of classes looks at

A class in brackets in front of a closing parenthesis is read whatever stands behind the
parenthesis. A class holds a hyphen that it leaves, where the reader has looked past the
parenthesis, only if the next element goes past it too.

## Main results

* `Bracket.read_local`: a class is read by the piece alone.
-/

namespace UrlMatch.Regex.Bracket

variable {C C' : Text} {f : Flags}

/-! ### Brackets that open -/

theorem takeHyphens_local {s s' : State} {t t' t'' : Text} (h : takeHyphens f s t = (s', t'))
    (hagree : Agree C C' t' t'') :
    ∃ w, Whole w ∧ t = w ++ t' ∧ takeHyphens f s (w ++ t'') = (s', t'') := by
  fun_induction takeHyphens f s t with
  | case1 s rest ih =>
      obtain ⟨w, hw, hrest, hlocal⟩ := ih h
      obtain ⟨v, hv, hrest', hskip⟩ := skip_local (hrest ▸ hagree.append w)
      refine ⟨'-' :: (v ++ w), .single (by decide) (hv.append hw), ?_, ?_⟩
      · rw [List.cons_append, List.append_assoc, ← hrest, ← hrest']
      · rw [List.cons_append, List.append_assoc, takeHyphens, hskip, hlocal]
  | case2 s t hne =>
      cases h
      refine ⟨[], .nil, rfl, ?_⟩
      unfold takeHyphens
      split
      · rename_i rest hrest
        obtain ⟨r, hr⟩ := cons_of_head?_eq hagree.head?_eq hrest
        exact absurd hr (hne r)
      · rfl

/-- Reads the sign of a complement behind an opening bracket. -/
def takeSign (f : Flags) (t : Text) : Bool × Text :=
  match f.skip t with
  | '^' :: rest => (true, f.skip rest)
  | _ => (false, f.skip t)

/-- Reads the hyphens and the closing bracket that may stand at the start of a class. -/
def takeLeading (f : Flags) (s : State) (t : Text) : Option (State × Text) :=
  match takeHyphens f s t with
  | (_, []) => none
  | (s, ']' :: rest) =>
    if t.head? = some '-' then some (s, ']' :: rest)
    else match f.skip rest with
      | [] => none
      | behind => some (s.add (.single ']'), behind)
  | (s, t) => some (s, t)

theorem openBracket_eq (s : State) (t : Text) : openBracket f s t =
    takeLeading f ⟨.inside (takeSign f t).1 s.union :: s.stack, .none⟩ (takeSign f t).2 :=
  rfl

theorem takeSign_local {t u : Text} (h : Agree C C' (takeSign f t).2 u) :
    ∃ w, Whole w ∧ t = w ++ (takeSign f t).2 ∧ takeSign f (w ++ u) = ((takeSign f t).1, u) := by
  unfold takeSign at h ⊢
  split at h
  · rename_i rest hskip
    obtain ⟨v, hv, hrest, hv'⟩ := skip_local h
    obtain ⟨w, hw, ht, hw'⟩ := skip_head (f := f) (t := t) (by simp [hskip])
    refine ⟨w ++ '^' :: v, hw.append (.single (by decide) hv), ?_, ?_⟩
    · dsimp only
      rw [List.append_assoc, List.cons_append, ← hrest, ← hskip, ← ht]
    · have hsign := hw' ('^' :: (v ++ u)) (by simp [hskip])
      simp [hsign, hv']
  · rename_i hsign
    obtain ⟨w, hw, ht, hw'⟩ := skip_local h
    refine ⟨w, hw, ht, ?_⟩
    rw [hw']
    split
    · obtain ⟨r, hr⟩ := cons_of_head?_eq h.head?_eq rfl
      exact absurd hr (hsign r)
    · rfl

theorem takeLeading_local (s : State) : Local C C' (takeLeading f s) := by
  intro t t' t'' a h hagree
  rw [takeLeading] at h
  split at h
  · simp at h
  · rename_i s' rest hhyphens
    split at h
    · rename_i hhyphen
      cases h
      obtain ⟨w, hw, ht, hlocal⟩ := takeHyphens_local hhyphens hagree
      obtain ⟨r, rfl, -⟩ := hagree.of_cons (by decide)
      have hhead : (w ++ ']' :: r).head? = t.head? := ht ▸ head?_append_congr rfl
      exact ⟨w, hw, ht, by simp only [takeLeading, hlocal, hhead, hhyphen, if_true]⟩
    · rename_i hhyphen
      split at h
      · simp at h
      · rename_i hskip
        cases h
        obtain ⟨v, hv, hrest, hv'⟩ := skip_local hagree
        have hbracket : Agree C C' (']' :: rest) (']' :: (v ++ t'')) := by
          rw [hrest]
          exact hagree.append (']' :: v)
        obtain ⟨w, hw, ht, hlocal⟩ := takeHyphens_local hhyphens hbracket
        have hhead : (w ++ ']' :: (v ++ t'')).head? = t.head? := ht ▸ head?_append_congr rfl
        have hne : t'' ≠ [] := hagree.symm.ne_nil
        refine ⟨w ++ ']' :: v, hw.append (.single (by decide) hv), ?_, ?_⟩
        · rw [List.append_assoc, List.cons_append, ← hrest, ← ht]
        · rw [List.append_assoc, List.cons_append]
          simp only [takeLeading, hlocal, hhead, hhyphen, if_false, hv']
  · rename_i hnil hbracket hhyphens
    cases h
    obtain ⟨w, hw, ht, hlocal⟩ := takeHyphens_local hhyphens hagree
    refine ⟨w, hw, ht, ?_⟩
    rw [takeLeading]
    rw [hlocal]
    split
    · rename_i hnil'
      exact absurd (congrArg Prod.snd hnil') hagree.symm.ne_nil
    · rename_i rest hrest
      obtain ⟨r, hr⟩ := cons_of_head?_eq hagree.head?_eq (congrArg Prod.snd hrest)
      exact absurd hr (hbracket r)
    · rename_i hresult
      rw [← hresult]

theorem openBracket_local (s : State) : Local C C' (openBracket f s) := by
  intro t t' t'' a h hagree
  rw [openBracket_eq] at h
  obtain ⟨v, hv, hsign, hlocal⟩ := takeLeading_local _ h hagree
  obtain ⟨w, hw, ht, hsign'⟩ := takeSign_local (t := t) (hsign ▸ hagree.append v)
  refine ⟨w ++ v, hw.append hv, by rw [List.append_assoc, ← hsign, ← ht], ?_⟩
  rw [openBracket_eq, List.append_assoc, hsign', hlocal]

/-! ### Named classes -/

/-- The name of an ASCII class has no parenthesis. -/
theorem not_mem_of_ofAsciiName? {name : Text} {c : CharClass}
    (h : CharClass.ofAsciiName? name = some c) : ')' ∉ name := by
  have hall : ∀ p ∈ CharClass.asciiClasses, ')' ∉ p.1.toList := by decide
  obtain ⟨ranges, hlookup, -⟩ := Option.map_eq_some_iff.1 h
  obtain ⟨before, after, hclasses, -⟩ := List.lookup_eq_some_iff.1 hlookup
  have hname := hall (String.ofList name, ranges) (by simp [hclasses])
  simpa using hname

/-- Reads the name of an ASCII class behind the sign of a complement. -/
def asciiName? (f : Flags) (negated : Bool) (t : Text) : Option (Option CharClass × Text) :=
  let name := t.takeWhile (· ≠ ':')
  match t.drop name.length with
  | ':' :: ']' :: behind =>
    (CharClass.ofAsciiName? name).map fun c => (f.close? negated c, behind)
  | _ => none

theorem asciiClass?_of_head_ne {t : Text} (h : t.head? ≠ some '^') :
    asciiClass? f (':' :: t) = asciiName? f false t := by
  cases t with
  | nil => rfl
  | cons c t =>
      have hc : c ≠ '^' := by simpa using h
      unfold asciiClass? asciiName?
      simp only
      split <;> simp_all

theorem asciiName?_local {negated : Bool} {t t' : Text} {c : Option CharClass}
    (h : asciiName? f negated t = some (c, t')) :
    ∃ w, w ≠ [] ∧ ')' ∉ w ∧ Whole w ∧ t = w ++ t' ∧
      ∀ u, asciiName? f negated (w ++ u) = some (c, u) := by
  unfold asciiName? at h
  dsimp only at h
  split at h
  · rename_i behind hdrop
    obtain ⟨c, hc, ⟨⟩⟩ := Option.map_eq_some_iff.1 h
    set name := t.takeWhile (· ≠ ':') with hname
    have hall : ∀ x ∈ name, decide (x ≠ ':') := fun x hx =>
      List.mem_takeWhile_imp (p := fun x => decide (x ≠ ':')) hx
    have ht : t = name ++ ':' :: ']' :: t' := by
      rw [← hdrop]
      exact (List.prefix_iff_eq_append.1 (List.takeWhile_prefix _)).symm
    have htake (u : Text) : (name ++ ':' :: ']' :: u).takeWhile (· ≠ ':') = name := by
      rw [List.takeWhile_append_of_pos hall]
      simp
    refine ⟨name ++ [':'] ++ [']'], by simp, ?_, .concat _ (by decide), by simpa using ht,
      fun u => ?_⟩
    · simpa using not_mem_of_ofAsciiName? hc
    · have happend : name ++ [':'] ++ [']'] ++ u = name ++ ':' :: ']' :: u := by simp
      rw [happend]
      simp only [asciiName?, htake, List.drop_left, hc, Option.map_some]
  · simp at h

/-- The name of an ASCII class is read whatever stands behind it, and has no parenthesis. -/
theorem asciiClass?_local {t t' : Text} {c : Option CharClass}
    (h : asciiClass? f t = some (c, t')) :
    ∃ w, ')' ∉ w ∧ Whole w ∧ t = w ++ t' ∧ ∀ u, asciiClass? f (w ++ u) = some (c, u) := by
  cases t with
  | nil => simp [asciiClass?] at h
  | cons d t =>
      by_cases hd : d = ':'
      · subst hd
        by_cases hsign : t.head? = some '^'
        · obtain ⟨t, rfl⟩ := List.head?_eq_some_iff.1 hsign
          have hname : asciiName? f true t = some (c, t') := h
          obtain ⟨w, -, hmem, hw, rfl, hlocal⟩ := asciiName?_local hname
          exact ⟨':' :: '^' :: w, by simpa using hmem,
            .single (by decide) (.single (by decide) hw), rfl, hlocal⟩
        · rw [asciiClass?_of_head_ne hsign] at h
          obtain ⟨w, hne, hmem, hw, rfl, hlocal⟩ := asciiName?_local h
          refine ⟨':' :: w, by simpa using hmem, .single (by decide) hw, rfl, fun u => ?_⟩
          rw [List.cons_append, asciiClass?_of_head_ne, hlocal]
          rwa [List.head?_append_of_ne_nil _ hne] at hsign ⊢
      · unfold asciiClass? at h
        split at h
        · rename_i heq
          exact absurd (List.cons.inj heq).1 hd
        · simp at h

/-- No class has a name where none has it in front of the parenthesis. -/
theorem asciiClass?_eq_none {t u : Text} (h : asciiClass? f t = none) (hagree : Agree C C' t u) :
    asciiClass? f u = none := by
  cases hu : asciiClass? f u with
  | none => rfl
  | some r =>
      obtain ⟨c, u'⟩ := r
      obtain ⟨w, hw, -, rfl, hlocal⟩ := asciiClass?_local hu
      obtain ⟨v, rfl, hv⟩ := hagree
      obtain ⟨v', rfl, rfl⟩ | ⟨w', rfl, hC⟩ := List.append_eq_append_iff.1 hv
      · rw [List.append_assoc, hlocal] at h
        simp at h
      · cases w' with
        | nil =>
            have hname := hlocal (')' :: C)
            rw [List.append_nil, h] at hname
            cases hname
        | cons d w' =>
            obtain ⟨rfl, -⟩ := List.cons.inj hC
            exact absurd List.mem_append_cons_self hw

/-! ### Items and ranges -/

theorem ne_look_of_class? {e : Escape} {c : CharClass} (h : e.class? f = some c)
    (l : Bool → Look) : e ≠ .look l := by
  rintro rfl
  simp [Escape.class?] at h

theorem readItem_local {t t' t'' : Text} {e : Escape} (h : readItem f t = some (e, t'))
    (hagree : Agree C C' t' t'') (hlook : ∀ l, e ≠ .look l) :
    ∃ w, w ≠ [] ∧ Whole w ∧ t = w ++ t' ∧ readItem f (w ++ t'') = some (e, t'') := by
  unfold readItem at h
  split at h
  · simp at h
  · rename_i rest
    obtain ⟨w, hw, rfl, hlocal⟩ := Escape.read_local h hagree fun l hl => absurd hl (hlook l)
    exact ⟨'\\' :: w, by simp, hw, rfl, hlocal⟩
  · rename_i c rest hc
    cases h
    exact ⟨[c], by simp, .single hc .nil, rfl, by simp [readItem]⟩

/-- Reads what stands behind an item, which may be the first of a range. -/
def afterItem (f : Flags) (a : Escape) (t : Text) : Option (CharClass × Text) := do
  match t with
  | [] => none
  | '-' :: rest =>
    match peek f rest with
    | some ']' | some '-' => return (← a.class? f, '-' :: rest)
    | none => none
    | some _ =>
      let (b, behind) ← readItem f (f.skip rest)
      return (← range? f a b, behind)
  | behind => return (← a.class? f, behind)

theorem readRange_eq (t : Text) :
    readRange f t = (readItem f t).bind fun r => afterItem f r.1 (f.skip r.2) :=
  rfl

/-- A hyphen that is left is followed by another hyphen or by a closing bracket. -/
theorem afterItem_hyphen {a : Escape} {t : Text} (h : peek f t = some ']' ∨ peek f t = some '-') :
    afterItem f a ('-' :: t) = (a.class? f).map (·, '-' :: t) := by
  rw [afterItem]
  rcases h with h | h <;> simp [h, Option.map_eq_bind]

/-- A range. -/
theorem afterItem_range {a : Escape} {x : Char} {t : Text} (h : peek f t = some x) (hx : x ≠ ']')
    (hx' : x ≠ '-') : afterItem f a ('-' :: t) =
      (readItem f (f.skip t)).bind fun r => (range? f a r.1).map (·, r.2) := by
  rw [afterItem]
  simp only [h]
  refine congrArg _ (funext fun r => ?_)
  simp [Option.map_eq_bind]

theorem afterItem_of_head_ne {a : Escape} {t : Text} (ht : t ≠ []) (h : t.head? ≠ some '-') :
    afterItem f a t = (a.class? f).map (·, t) := by
  unfold afterItem
  split <;> simp_all [Option.map_eq_bind]

theorem ne_look_of_range? {a b : Escape} {c : CharClass} (h : range? f a b = some c)
    (l : Bool → Look) : a ≠ .look l ∧ b ≠ .look l := by
  unfold range? at h
  split at h
  · simp
  · simp at h

theorem afterItem_local {t t' t'' : Text} {a : Escape} {c : CharClass}
    (h : afterItem f a t = some (c, t')) (hagree : Agree C C' t' t'') (hclear : Clear '-' f C t') :
    (∀ l, a ≠ .look l) ∧ ∃ w, Whole w ∧ t = w ++ t' ∧ afterItem f a (w ++ t'') = some (c, t'') := by
  by_cases hhyphen : t.head? = some '-'
  · obtain ⟨rest, rfl⟩ := List.head?_eq_some_iff.1 hhyphen
    by_cases hpeek : peek f rest = some ']' ∨ peek f rest = some '-'
    · rw [afterItem_hyphen hpeek] at h
      obtain ⟨c, hc, ⟨⟩⟩ := Option.map_eq_some_iff.1 h
      obtain ⟨u, rfl, hrest⟩ := hagree.of_cons (by decide)
      have hpeek' : peek f u = peek f rest := (hrest.skip (hclear rest rfl)).head?_eq
      refine ⟨ne_look_of_class? hc, [], .nil, rfl, ?_⟩
      rw [List.nil_append, afterItem_hyphen (hpeek' ▸ hpeek), hc]
      rfl
    · rw [not_or] at hpeek
      cases hx : peek f rest with
      | none => simp [afterItem, hx] at h
      | some x =>
          rw [hx] at hpeek
          have hx1 : x ≠ ']' := fun h => hpeek.1 (by rw [h])
          have hx2 : x ≠ '-' := fun h => hpeek.2 (by rw [h])
          rw [afterItem_range hx hx1 hx2] at h
          obtain ⟨⟨b, behind⟩, hread, h⟩ := Option.bind_eq_some_iff.1 h
          obtain ⟨c, hc, ⟨⟩⟩ := Option.map_eq_some_iff.1 h
          have hlook := ne_look_of_range? hc
          obtain ⟨w, -, hw, hskip, hread'⟩ := readItem_local hread hagree fun l => (hlook l).2
          obtain ⟨v, hv, hrest, hskip'⟩ := skip_local (f := f) (t := rest) (hskip ▸ hagree.append w)
          have hpeek' : peek f (v ++ (w ++ t'')) = some x := by
            rw [peek, hskip', head?_append_congr hagree.head?_eq, ← hskip]
            exact hx
          refine ⟨fun l => (hlook l).1, '-' :: (v ++ w), .single (by decide) (hv.append hw), ?_, ?_⟩
          · rw [List.cons_append, List.append_assoc, ← hskip, ← hrest]
          · rw [List.cons_append, List.append_assoc, afterItem_range hpeek' hx1 hx2, hskip', hread',
              Option.bind_some, hc]
            rfl
  · cases t with
    | nil => simp [afterItem] at h
    | cons d t =>
        rw [afterItem_of_head_ne (by simp) hhyphen] at h
        obtain ⟨c, hc, ⟨⟩⟩ := Option.map_eq_some_iff.1 h
        refine ⟨ne_look_of_class? hc, [], .nil, rfl, ?_⟩
        rw [List.nil_append,
          afterItem_of_head_ne hagree.symm.ne_nil (hagree.head?_eq ▸ hhyphen), hc]
        rfl

theorem readRange_local {t t' t'' : Text} {c : CharClass} (h : readRange f t = some (c, t'))
    (hagree : Agree C C' t' t'') (hclear : Clear '-' f C t') :
    ∃ w, w ≠ [] ∧ Whole w ∧ t = w ++ t' ∧ readRange f (w ++ t'') = some (c, t'') := by
  rw [readRange_eq] at h
  obtain ⟨⟨a, t1⟩, hitem, hafter⟩ := Option.bind_eq_some_iff.1 h
  obtain ⟨hlook, u, hu, hskip, hlocal⟩ := afterItem_local hafter hagree hclear
  obtain ⟨v, hv, ht1, hskip'⟩ := skip_local (f := f) (t := t1) (hskip ▸ hagree.append u)
  have hagree' : Agree C C' t1 (v ++ (u ++ t'')) := by
    rw [ht1, hskip]
    exact (hagree.append u).append v
  obtain ⟨w, hne, hw, ht, hitem'⟩ := readItem_local hitem hagree' hlook
  refine ⟨w ++ (v ++ u), by simp [hne], hw.append (hv.append hu), ?_, ?_⟩
  · rw [ht, ht1, hskip]
    simp
  · rw [readRange_eq, List.append_assoc, List.append_assoc, hitem', Option.bind_some]
    dsimp only
    rw [hskip', hlocal]

/-! ### Elements of a class -/

/-- What is left behind an element. -/
def Step.rest : Step → Text
  | more _ t => t
  | closed _ t => t

/-- The same element in front of another text. -/
def Step.before (u : Text) : Step → Step
  | more s _ => .more s u
  | closed c _ => .closed c u

theorem close_local {s : State} {t : Text} {e : Step} (h : close f s t = some e) :
    e.rest = t ∧ ∀ u, close f s u = some (e.before u) := by
  unfold close at h ⊢
  split at h
  · rename_i c negated outer stack hpending
    simp only [Option.bind_eq_bind, Option.bind_eq_some_iff] at h
    obtain ⟨d, hd, h⟩ := h
    simp only [hd, Option.bind_eq_bind, Option.bind_some]
    split at h <;> cases h <;> simp_all [Step.rest, Step.before]
  · simp at h

/-- Two characters that start an element of another kind than a range. -/
def isSign (c : Char) (next : Option Char) : Prop :=
  c = '[' ∨ c = ']' ∨ (c ∈ ['&', '-', '~'] ∧ next = some c)

theorem step_of_not_isSign {s : State} {c : Char} {t : Text} (h : ¬ isSign c t.head?) :
    step f s (c :: t) = (readRange f (c :: t)).map fun r => .more (s.add r.1) r.2 := by
  unfold step
  split <;> simp_all [isSign]

/-- An operator. -/
theorem step_twice (s : State) {c : Char} (h : c ∈ ['&', '-', '~']) :
    ∃ o, ∀ t, step f s (c :: c :: t) = some (operate f s o t) := by
  simp only [List.mem_cons, List.not_mem_nil, or_false] at h
  rcases h with rfl | rfl | rfl
  · exact ⟨.inter, fun t => rfl⟩
  · exact ⟨.diff, fun t => rfl⟩
  · exact ⟨.symmDiff, fun t => rfl⟩

theorem step_local {s : State} {t u : Text} {e : Step} (h : step f s t = some e)
    (hagree : Agree C C' e.rest u) (hclear : ∀ s t, e = .more s t → Clear '-' f C t) :
    ∃ w, w ≠ [] ∧ Whole w ∧ t = w ++ e.rest ∧ step f s (w ++ u) = some (e.before u) := by
  cases t with
  | nil => simp [step] at h
  | cons c t =>
      by_cases hsign : isSign c t.head?
      · rcases hsign with rfl | rfl | ⟨hc, hnext⟩
        · simp only [step] at h
          cases hname : asciiClass? f t with
          | some r =>
              obtain ⟨d, behind⟩ := r
              simp only [hname] at h
              obtain ⟨d, rfl, rfl⟩ := Option.map_eq_some_iff.1 h
              obtain ⟨w, -, hw, rfl, hlocal⟩ := asciiClass?_local hname
              exact ⟨'[' :: w, by simp, .single (by decide) hw, rfl,
                by simp [step, hlocal, Step.before]⟩
          | none =>
              simp only [hname] at h
              obtain ⟨⟨s', behind⟩, hopen, rfl⟩ := Option.map_eq_some_iff.1 h
              obtain ⟨w, hw, rfl, hlocal⟩ := openBracket_local s hopen hagree
              have hname' := asciiClass?_eq_none hname (hagree.append w)
              exact ⟨'[' :: w, by simp, .single (by decide) hw, rfl,
                by simp [step, hname', hlocal, Step.before]⟩
        · obtain ⟨hrest, hlocal⟩ := close_local h
          exact ⟨[']'], by simp, .single (by decide) .nil, by rw [hrest]; rfl, hlocal u⟩
        · obtain ⟨t, rfl⟩ := List.head?_eq_some_iff.1 hnext
          obtain ⟨o, ho⟩ := step_twice (f := f) s hc
          have hwhole : c ≠ '\\' := by
            rintro rfl
            simp at hc
          rw [ho, Option.some.injEq] at h
          subst h
          exact ⟨[c, c], by simp, .single hwhole (.single hwhole .nil), rfl, ho u⟩
      · rw [step_of_not_isSign hsign] at h
        obtain ⟨⟨d, behind⟩, hrange, rfl⟩ := Option.map_eq_some_iff.1 h
        obtain ⟨w, hne, hw, ht, hlocal⟩ := readRange_local hrange hagree (hclear _ _ rfl)
        cases w with
        | nil => contradiction
        | cons c' w =>
            obtain ⟨rfl, rfl⟩ := List.cons.inj ht
            refine ⟨c :: w, hne, hw, rfl, ?_⟩
            rw [List.cons_append] at hlocal ⊢
            rw [step_of_not_isSign, hlocal]
            · rfl
            · rwa [head?_append_congr hagree.head?_eq]

/-- A hyphen is never ignored. -/
theorem skip_hyphen (f : Flags) (t : Text) : f.skip ('-' :: t) = '-' :: t := by
  have h : Unicode.isBlank '-' = false := by decide
  simp [Flags.skip, dropIgnored, h]

theorem length_afterItem_le {t t' u : Text} {a : Escape} {c : CharClass}
    (h : afterItem f a t = some (c, t')) (hagree : Agree C C' t' u) : t'.length ≤ t.length := by
  unfold afterItem at h
  split at h
  · simp at h
  · rename_i rest
    split at h
    · obtain ⟨d, -, ⟨⟩⟩ := Option.bind_eq_some_iff.1 h
      exact Nat.le_refl _
    · obtain ⟨d, -, ⟨⟩⟩ := Option.bind_eq_some_iff.1 h
      exact Nat.le_refl _
    · simp at h
    · obtain ⟨⟨b, behind⟩, hread, h⟩ := Option.bind_eq_some_iff.1 h
      obtain ⟨d, hd, ⟨⟩⟩ := Option.bind_eq_some_iff.1 h
      obtain ⟨w, -, -, hskip, -⟩ := readItem_local hread hagree fun l => (ne_look_of_range? hd l).2
      have hle := f.length_skip_le rest
      rw [hskip, List.length_append] at hle
      simp only [List.length_cons]
      omega
  · obtain ⟨d, -, ⟨⟩⟩ := Option.bind_eq_some_iff.1 h
    exact Nat.le_refl _

/-- An element that starts with a hyphen and ends in front of the parenthesis looks past nothing. -/
theorem clear_of_step {s : State} {t u : Text} {e : Step} (h : step f s (f.skip t) = some e)
    (hagree : Agree C C' e.rest u) : Clear '-' f C t := by
  rintro t rfl
  rw [skip_hyphen] at h
  have hlt := hagree.length_lt
  by_cases hsign : isSign '-' t.head?
  · obtain ⟨t, rfl⟩ : ∃ t', t = '-' :: t' :=
      List.head?_eq_some_iff.1 (by simpa [isSign] using hsign)
    obtain ⟨o, ho⟩ := step_twice (f := f) s (c := '-') (by simp)
    rw [ho, Option.some.injEq] at h
    subst h
    rw [skip_hyphen]
    exact Nat.lt_succ_of_lt hlt
  · rw [step_of_not_isSign hsign] at h
    obtain ⟨⟨d, behind⟩, hrange, rfl⟩ := Option.map_eq_some_iff.1 h
    have hafter : afterItem f (.literal '-' false) (f.skip t) = some (d, behind) := hrange
    exact Nat.lt_of_lt_of_le hlt (length_afterItem_le hafter hagree)

/-- A class is read up to a text that stands in front of the parenthesis, whatever follows, and the
reader looks past nothing. -/
theorem run_local {s : State} {t t' t'' : Text} {c : CharClass} (h : run f s t = some (c, t'))
    (hagree : Agree C C' t' t'') : Clear '-' f C t ∧
      ∃ w, Whole w ∧ t = w ++ t' ∧ run f s (w ++ t'') = some (c, t'') := by
  fun_induction run f s t with
  | case1 => simp at h
  | case2 s t d rest hstep =>
      cases h
      obtain ⟨w, hne, hw, hskip, hlocal⟩ := step_local hstep hagree (by simp)
      obtain ⟨v, hv, ht, hskip'⟩ := skip_local (hskip ▸ hagree.append w)
      refine ⟨clear_of_step hstep hagree, v ++ w, hv.append hw, ?_, ?_⟩
      · rw [ht, hskip, List.append_assoc]
        rfl
      · rw [List.append_assoc, run, hskip', hlocal]
        rfl
  | case3 s t s' rest hstep hlt ih =>
      obtain ⟨hclear, v, hv, hrest, hrun⟩ := ih h
      have hrest' : Agree C C' rest (v ++ t'') := hrest ▸ hagree.append v
      obtain ⟨w, hne, hw, hskip, hlocal⟩ := step_local hstep hrest' (by simpa using hclear)
      obtain ⟨u, hu, ht, hskip'⟩ := skip_local (hskip ▸ hrest'.append w)
      refine ⟨clear_of_step hstep hrest', u ++ (w ++ v), hu.append (hw.append hv), ?_, ?_⟩
      · rw [ht, hskip, Step.rest, hrest]
        simp
      · have hless : (v ++ t'').length < (u ++ (w ++ (v ++ t''))).length := by
          have hpos := List.length_pos_iff.2 hne
          simp only [List.length_append]
          omega
        rw [List.append_assoc, List.append_assoc, run, hskip', hlocal]
        simp only [Step.before, if_pos hless, hrun]
  | case4 => simp at h

/-- **A class is read whatever follows the parenthesis behind it.** -/
theorem read_local : Local C C' (read f) := by
  intro t t' t'' c h hagree
  obtain ⟨⟨s, rest⟩, hopen, hrun⟩ := Option.bind_eq_some_iff.1 h
  obtain ⟨-, v, hv, hrest, hlocal⟩ := run_local hrun hagree
  obtain ⟨w, hw, ht, hopen'⟩ := openBracket_local _ hopen (hrest ▸ hagree.append v)
  refine ⟨w ++ v, hw.append hv, by rw [ht, hrest, List.append_assoc], ?_⟩
  rw [List.append_assoc, read, hopen']
  exact hlocal

end UrlMatch.Regex.Bracket
