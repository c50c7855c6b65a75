import UrlMatch.Proofs.Regex.Groups
import UrlMatch.Proofs.Regex.Locality.Reader

/-!
# Groups within groups

What stands in a group is read without regard to what the group stands in, as long as it opens no
group that records and does not close the group: the open groups around it, their number and their
names are carried along.

## Main results

* `Reader.ReachesQuietly.inside`, `Reader.reaches_of_inside`: a run within a group, seen from
  inside and from outside.
* `Reader.reaches_of_length_le`: a reader goes one way only.
-/

namespace UrlMatch.Regex

/-- What stands behind an opening parenthesis opens no group that records. -/
def Unrecorded (f : Flags) (t : Text) : Prop :=
  ∃ rest, f.skip t = '?' :: rest ∧ (∀ r, rest ≠ 'P' :: '<' :: r) ∧
    ∀ r, rest = '<' :: r → r.head? = some '=' ∨ r.head? = some '!'

namespace Reader

variable {s s' base : Reader} {t t' : Text}

/-- A reader within a group that `base` has just opened. -/
def inside (s base : Reader) : Reader :=
  { s with outer := s.outer ++ base.outer, groups := base.groups, names := base.names }

@[simp] theorem flags_inside (s base : Reader) : (s.inside base).flags = s.flags := rfl

@[simp] theorem outer_inside (s base : Reader) :
    (s.inside base).outer = s.outer ++ base.outer := rfl

@[simp] theorem groups_inside (s base : Reader) : (s.inside base).groups = base.groups := rfl

@[simp] theorem current_inside (s base : Reader) : (s.inside base).current = s.current := rfl

theorem applyFlags_inside (r : Flags × List Char × Char × Text) :
    applyFlags (s.inside base) r = (applyFlags s r).map fun y => (y.1.inside base, y.2) := by
  unfold applyFlags
  split
  · rfl
  · split <;> rfl

theorem readGroup_inside (h : Unrecorded s.flags t) :
    readGroup (s.inside base) t = (readGroup s t).map fun y => (y.1.inside base, y.2) := by
  obtain ⟨rest, hskip, hname, hangle⟩ := h
  by_cases hrest : ∀ c ∈ ['=', '!', '<'], rest.head? ≠ some c
  · rw [readGroup_flags (s := s.inside base) hskip hrest hname, readGroup_flags hskip hrest hname,
      Option.map_bind]
    exact congrArg _ (funext applyFlags_inside)
  · have hnone {s : Reader} (h : s.flags.skip t = '?' :: rest) : readGroup s t = none := by
      simp only [List.mem_cons, List.not_mem_nil, or_false, forall_eq_or_imp, forall_eq] at hrest
      rw [readGroup]
      rw [h]
      split <;> grind [List.head?_eq_some_iff]
    rw [hnone hskip, hnone (s := s.inside base) hskip]
    rfl

theorem closeGroup?_inside (h : s.outer ≠ []) :
    (s.inside base).closeGroup? = s.closeGroup?.map (·.inside base) := by
  unfold closeGroup?
  cases hs : s.outer with
  | nil => contradiction
  | cons frame outer => simp [inside, hs]; rfl

theorem repeatLast?_inside {least : Nat} {most : Option Nat} {greedy : Bool} :
    (s.inside base).repeatLast? least most greedy =
      (s.repeatLast? least most greedy).map (·.inside base) := by
  unfold repeatLast?
  split <;> simp_all [inside]

theorem readRepetition_inside {least : Nat} {most : Option Nat} :
    readRepetition (s.inside base) least most t =
      (readRepetition s least most t).map fun y => (y.1.inside base, y.2) := by
  simp only [readRepetition, repeatLast?_inside]
  cases s.repeatLast? least most !(takeLazy t).1 <;> rfl

/-- **What stands in a group is read without regard to what the group stands in.** -/
theorem step_inside (base : Reader) (hgroup : ∀ rest, t = '(' :: rest → Unrecorded s.flags rest)
    (hclose : ∀ rest, t = ')' :: rest → s.outer ≠ []) :
    step (s.inside base) t = (step s t).map fun y => (y.1.inside base, y.2) := by
  unfold step
  split
  · rfl
  · exact readGroup_inside (hgroup _ rfl)
  · rw [closeGroup?_inside (hclose _ rfl), Option.map_map, Option.map_map]
    rfl
  · rfl
  · rw [Option.map_map]
    rfl
  · exact readRepetition_inside
  · exact readRepetition_inside
  · exact readRepetition_inside
  · rename_i rest
    cases hbounds : readBounds s.flags rest with
    | none => simp [hbounds]
    | some b => simp [hbounds, readRepetition_inside]
  · rename_i rest
    cases hread : Escape.read s.flags rest with
    | none => simp [hread]
    | some r =>
        cases hr : r.1.regex? s.flags <;> simp [hread, hr]
        rfl
  · rw [Option.map_map]
    rfl
  · rfl
  · rfl
  · simp [Option.map_map]
    rfl

/-! ### Quiet runs -/

/-- One element is read that opens no group that records. -/
def GoesQuietly (x y : Reader × Text) : Prop :=
  Goes x y ∧ ∀ rest, x.1.flags.skip x.2 = '(' :: rest → Unrecorded x.1.flags rest

/-- A number of elements are read that open no group that records. -/
abbrev ReachesQuietly : Reader × Text → Reader × Text → Prop := Relation.ReflTransGen GoesQuietly

namespace GoesQuietly

/-- What closes a group stands in one. -/
theorem outer_ne_nil (h : Goes (s, t) (s', t')) {rest : Text}
    (ht : s.flags.skip t = ')' :: rest) : s.outer ≠ [] := by
  intro hnil
  have hstep := h.1
  simp [ht, step, closeGroup?, hnil] at hstep

theorem inside (h : GoesQuietly (s, t) (s', t')) (base : Reader) :
    GoesQuietly (s.inside base, t) (s'.inside base, t') := by
  obtain ⟨hgoes, hquiet⟩ := h
  have hstep := step_inside base hquiet fun _ => outer_ne_nil hgoes
  rw [hgoes.1] at hstep
  exact ⟨⟨hstep, hgoes.2⟩, hquiet⟩

theorem of_inside (h : GoesQuietly (s.inside base, t) (s', t'))
    (hclose : ∀ rest, s.flags.skip t = ')' :: rest → s.outer ≠ []) :
    ∃ s1, s' = s1.inside base ∧ GoesQuietly (s, t) (s1, t') := by
  obtain ⟨hgoes, hquiet⟩ := h
  have hquiet' : ∀ rest, s.flags.skip t = '(' :: rest → Unrecorded s.flags rest := hquiet
  have hstep : step (s.inside base) (s.flags.skip t) = some (s', t') := hgoes.1
  rw [step_inside base hquiet' hclose] at hstep
  obtain ⟨⟨s1, t1⟩, hs1, ⟨⟩⟩ := Option.map_eq_some_iff.1 hstep
  exact ⟨s1, rfl, ⟨hs1, hgoes.2⟩, hquiet⟩

theorem groups (h : GoesQuietly (s, t) (s', t')) : s'.groups = s.groups := by
  have hself : s = s.inside { s with outer := [] } := by simp [Reader.inside]
  have hstep := step_inside { s with outer := [] } h.2 fun _ => outer_ne_nil h.1
  rw [← hself] at hstep
  obtain ⟨y, -, hy⟩ := Option.map_eq_some_iff.1 (hstep.symm.trans h.1.1)
  exact (congrArg (fun z => z.1.groups) hy).symm

/-- Groups that record nothing are opened, if any. -/
theorem index_eq_none (h : GoesQuietly (s, t) (s', t'))
    (hs : ∀ frame ∈ s.outer, frame.index = none) :
    ∀ frame ∈ s'.outer, frame.index = none := by
  have hgroups : s'.groups = s.groups := h.groups
  rcases (move_of_step h.1.1).outer with ⟨houter, -⟩ | ⟨frame, houter, -⟩ | ⟨frame, houter, hindex⟩
  · exact houter ▸ hs
  · exact fun f hf => hs f (houter ▸ List.mem_cons_of_mem _ hf)
  · rcases hindex with ⟨hnone, -⟩ | ⟨-, hnext⟩
    · exact houter ▸ List.forall_mem_cons.2 ⟨hnone, hs⟩
    · exact absurd (hgroups.symm.trans hnext) (Nat.ne_of_lt (Nat.lt_succ_self _))

end GoesQuietly

/-- **A run within a group, seen from outside.** -/
theorem ReachesQuietly.inside {x y : Reader × Text} (h : ReachesQuietly x y) (base : Reader) :
    ReachesQuietly (x.1.inside base, x.2) (y.1.inside base, y.2) :=
  h.lift (fun z => (z.1.inside base, z.2)) fun _ _ hgoes => hgoes.inside base

theorem ReachesQuietly.groups {x y : Reader × Text} (h : ReachesQuietly x y) :
    y.1.groups = x.1.groups := by
  induction h with
  | refl => rfl
  | tail _ hgoes ih => exact hgoes.groups.trans ih

/-- **A run within a group, seen from inside.** As long as the group with the number `n` is open,
what is read is read within it. -/
theorem reaches_of_inside {n : Nat} {y : Reader × Text} {frame : Frame} {outer : List Frame}
    (h : ReachesQuietly (s.inside base, t) y) (hs : ∀ f ∈ s.outer, f.index = none)
    (hbase : base.outer = frame :: outer) (houter : ∀ f ∈ outer, f.index ≠ some n)
    (hn : n ≤ base.groups) (hy : ∃ f ∈ y.1.outer, f.index = some n) :
    ∃ s', y.1 = s'.inside base ∧ ReachesQuietly (s, t) (s', y.2) ∧
      ∀ f ∈ s'.outer, f.index = none := by
  induction h with
  | refl => exact ⟨s, rfl, .refl, hs⟩
  | @tail y z hrun hgoes ih =>
      obtain ⟨f, hf, hindex⟩ := hy
      have hgroups : y.1.groups = base.groups := ReachesQuietly.groups hrun
      have hmove := (move_of_step hgoes.1.1).outer
      have hf' : f ∈ y.1.outer := by
        rcases hmove with ⟨h, -⟩ | ⟨g, h, -⟩ | ⟨g, h, hg⟩
        · exact h ▸ hf
        · exact h ▸ List.mem_cons_of_mem _ hf
        · rcases List.mem_cons.1 (h ▸ hf) with rfl | hf
          · rcases hg with ⟨hnone, -⟩ | ⟨hnext, -⟩
            · simp [hnone] at hindex
            · rw [hnext, Option.some.injEq] at hindex
              omega
          · exact hf
      obtain ⟨s1, hs1, hreaches, hnone⟩ := ih ⟨f, hf', hindex⟩
      obtain ⟨y, u⟩ := y
      obtain ⟨z, v⟩ := z
      obtain rfl : y = s1.inside base := hs1
      have hclose : ∀ rest, s1.flags.skip u = ')' :: rest → s1.outer ≠ [] := by
        intro rest hskip hnil
        have hstep := hgoes.1.1
        simp only [flags_inside, hskip, step, closeGroup?, outer_inside, hnil, hbase,
          List.nil_append, Option.map_some, Option.some.injEq, Prod.mk.injEq] at hstep
        exact houter f (by simpa [← hstep.1] using hf) hindex
      obtain ⟨s2, rfl, hgoes'⟩ := hgoes.of_inside hclose
      exact ⟨s2, rfl, hreaches.tail hgoes', hgoes'.index_eq_none hnone⟩

theorem ReachesQuietly.reaches {x y : Reader × Text} (h : ReachesQuietly x y) : Reaches x y := by
  induction h with
  | refl => exact .refl
  | tail _ hgoes ih => exact ih.tail hgoes.1

/-! ### A single way -/

theorem rightUnique_goes : Relator.RightUnique Goes := fun _ _ _ hy hz =>
  Option.some.inj (hy.1.symm.trans hz.1)

theorem length_le_of_reaches {x y : Reader × Text} (h : Reaches x y) :
    y.2.length ≤ x.2.length := by
  induction h with
  | refl => exact Nat.le_refl _
  | tail _ hgoes ih => exact (Nat.le_of_lt hgoes.2).trans ih

/-- **A reader goes one way only**: what it reaches further behind it reaches from what it reaches
before. -/
theorem reaches_of_length_le {x y z : Reader × Text} (hy : Reaches x y) (hz : Reaches x z)
    (hle : z.2.length ≤ y.2.length) : Reaches y z := by
  rcases Relation.ReflTransGen.total_of_right_unique rightUnique_goes hy hz with
    h | h
  · exact h
  · rcases Relation.ReflTransGen.cases_head h with rfl | ⟨w, hgoes, hrest⟩
    · exact .refl
    · have hlt := hgoes.2
      have hw := length_le_of_reaches hrest
      omega

end Reader

end UrlMatch.Regex
