import UrlMatch.Proofs.Regex.Reading
import UrlMatch.Regex.Program

/-!
# The groups of a program

How many groups a program records can be told from the expression alone, and the reader of an
expression never gives an expression a group of a higher number than it has counted.

## Main results

* `groups_program`: the number of groups of a program.
* `Reader.move_of_step`: what an element does to a reader.
* `Reader.Numbered.move`: the groups of what is read are among the ones that are counted.
-/

namespace UrlMatch.Regex

/-! ### The last group of an expression -/

/-- The greatest number of a group that an expression can record; 0 if it records none. A
repetition that is never taken records nothing. -/
def lastGroup : Regex → Nat
  | .empty | .one _ | .look _ => 0
  | .group i r => max i (lastGroup r)
  | .seq a b => max (lastGroup a) (lastGroup b)
  | .alt a b => max (lastGroup a) (lastGroup b)
  | .repeated r least most _ => if least = 0 ∧ most = some 0 then 0 else lastGroup r

theorem foldl_groupCount (insts : List Inst) {n : Nat} (hn : 1 ≤ n) :
    insts.foldl (fun n i => match i with
      | .save slot => max n (slot / 2 + 1)
      | _ => n) n = max n (groupCount insts) := by
  induction insts generalizing n with
  | nil => simp [groupCount, hn]
  | cons i insts ih =>
      cases i with
      | save slot =>
          have h : groupCount (.save slot :: insts) =
              max (max 1 (slot / 2 + 1)) (groupCount insts) := ih (Nat.le_max_left 1 _)
          have hfold := ih (n := max n (slot / 2 + 1)) (hn.trans (Nat.le_max_left n _))
          exact hfold.trans (by omega)
      | char _ | look _ | jump _ | fork _ _ => exact ih hn

@[simp] theorem groupCount_nil : groupCount [] = 1 := rfl

theorem one_le_groupCount (insts : List Inst) : 1 ≤ groupCount insts := by
  have h := foldl_groupCount insts (Nat.le_refl 1)
  exact (Nat.le_max_left _ _).trans_eq h.symm

@[simp] theorem groupCount_append (as bs : List Inst) :
    groupCount (as ++ bs) = max (groupCount as) (groupCount bs) := by
  rw [groupCount, List.foldl_append]
  exact foldl_groupCount bs (one_le_groupCount as)

@[simp] theorem groupCount_save (slot : Nat) (insts : List Inst) :
    groupCount (.save slot :: insts) = max (slot / 2 + 1) (groupCount insts) := by
  have h := foldl_groupCount insts (n := max 1 (slot / 2 + 1)) (by omega)
  have hone := one_le_groupCount insts
  exact h.trans (by omega)

theorem groupCount_cons {i : Inst} (hi : ∀ slot, i ≠ .save slot) (insts : List Inst) :
    groupCount (i :: insts) = groupCount insts := by
  cases i with
  | save slot => exact absurd rfl (hi slot)
  | char _ | look _ | jump _ | fork _ _ => rfl

theorem groupCount_again (greedy : Bool) (body exit : Nat) (insts : List Inst) :
    groupCount (.again greedy body exit :: insts) = groupCount insts :=
  groupCount_cons (by cases greedy <;> simp [Inst.again]) insts

theorem groupCount_copies {code : Nat → List Inst} {step c : Nat}
    (h : ∀ pc, groupCount (code pc) = c + 1) (n pc : Nat) :
    groupCount (copies code step n pc) = if n = 0 then 1 else c + 1 := by
  induction n with
  | zero => rfl
  | succ n ih =>
      rw [copies, List.range_succ, List.flatMap_append, groupCount_append]
      have hcopies : groupCount ((List.range n).flatMap fun k => code (pc + k * step)) = _ := ih
      rw [hcopies]
      simp only [List.flatMap_cons, List.flatMap_nil, List.append_nil, h]
      split <;> simp

theorem groupCount_code (r : Regex) (pc : Nat) : groupCount (code r pc) = lastGroup r + 1 := by
  induction r generalizing pc with
  | empty | one _ | look _ => rfl
  | group i r ih =>
      simp only [code, List.cons_append, groupCount_save, groupCount_append, ih, groupCount_nil,
        lastGroup]
      omega
  | seq a b iha ihb => simp only [code, groupCount_append, iha, ihb, lastGroup]; omega
  | alt a b iha ihb =>
      have hfork (x y : Nat) (insts : List Inst) :
          groupCount (.fork x y :: insts) = groupCount insts := groupCount_cons (by simp) insts
      have hjump (x : Nat) (insts : List Inst) :
          groupCount (.jump x :: insts) = groupCount insts := groupCount_cons (by simp) insts
      simp only [code, List.cons_append, hfork, groupCount_append, hjump, iha, ihb, lastGroup]
      omega
  | repeated r least most greedy ih =>
      have hagain (body exit pc : Nat) :
          groupCount (.again greedy body exit :: code r pc) = lastGroup r + 1 := by
        rw [groupCount_again, ih]
      cases most with
      | none =>
          cases least with
          | zero =>
              simp [code, groupCount_again, ih, lastGroup]
          | succ n =>
              simp only [code, groupCount_append, groupCount_copies ih, ih, groupCount_again,
                groupCount_nil, lastGroup]
              split <;> simp
      | some m =>
          simp only [code, groupCount_append, groupCount_copies ih, groupCount_copies
            (fun pc => hagain _ _ (pc + 1)), lastGroup, Option.some.injEq]
          grind

/-- **The number of groups of a program**, the whole match included. -/
theorem groups_program (r : Regex) : (program r).groups = lastGroup r + 1 := by
  have h := groupCount_code (.group 0 r) 0
  simpa [program, lastGroup] using h

/-! ### Groups of sequences and choices -/

@[simp] theorem lastGroup_sequence_nil : lastGroup (sequence []) = 0 := rfl

@[simp] theorem lastGroup_sequence_cons (r : Regex) (rs : List Regex) :
    lastGroup (sequence (r :: rs)) = max (lastGroup r) (lastGroup (sequence rs)) := rfl

@[simp] theorem lastGroup_sequence_append (as bs : List Regex) :
    lastGroup (sequence (as ++ bs)) = max (lastGroup (sequence as)) (lastGroup (sequence bs)) := by
  induction as with
  | nil => simp
  | cons a as ih => simp [ih, Nat.max_assoc]

theorem lastGroup_sequence_le {rs : List Regex} {n : Nat} (h : ∀ r ∈ rs, lastGroup r ≤ n) :
    lastGroup (sequence rs) ≤ n := by
  induction rs with
  | nil => exact Nat.zero_le n
  | cons r rs ih =>
      obtain ⟨hr, hrs⟩ := List.forall_mem_cons.1 h
      exact Nat.max_le.2 ⟨hr, ih hrs⟩

theorem lastGroup_choice_le {rs : List Regex} {n : Nat} (h : ∀ r ∈ rs, lastGroup r ≤ n) :
    lastGroup (choice rs) ≤ n := by
  fun_induction choice rs with
  | case1 => exact Nat.zero_le n
  | case2 r => exact h r List.mem_cons_self
  | case3 r next rs ih =>
      obtain ⟨hr, hrs⟩ := List.forall_mem_cons.1 h
      exact Nat.max_le.2 ⟨hr, ih hrs⟩

/-! ### What an element does to a reader -/

namespace Reader

/-- What an element does to a reader: it is an item of its own, ends an alternative, repeats the
last item, closes a group, opens one, or sets flags. -/
inductive Move : Reader → Reader → Prop
  | item {s : Reader} {r : Regex} : lastGroup r = 0 → Move s (s.push r)
  | alternative {s : Reader} : Move s s.nextAlternative
  | again {s s' : Reader} {least : Nat} {most : Option Nat} {greedy : Bool} :
      s.repeatLast? least most greedy = some s' → Move s s'
  | close {s s' : Reader} : s.closeGroup? = some s' → Move s s'
  | openPlain {s : Reader} (flags : Flags) : Move s (s.openGroup none flags)
  | setFlags {s : Reader} (flags : Flags) : Move s { s with flags, items := none :: s.items }
  | openRecording {s : Reader} (names : List Text) : Move s { s.openCapture with names }

variable {s s' : Reader} {t t' : Text}

theorem move_of_openNamed (h : openNamed s t = some (s', t')) : Move s s' := by
  obtain ⟨⟨name, rest⟩, -, h⟩ := Option.bind_eq_some_iff.1 h
  dsimp only at h
  split at h
  · simp at h
  · cases h
    exact .openRecording _

theorem move_of_readGroup (h : readGroup s t = some (s', t')) : Move s s' := by
  rw [readGroup] at h
  split at h
  · simp at h
  · simp at h
  · simp at h
  · simp at h
  · exact move_of_openNamed h
  · exact move_of_openNamed h
  · obtain ⟨⟨flags, seen, last, behind⟩, -, h⟩ := Option.bind_eq_some_iff.1 h
    dsimp only at h
    split at h
    · cases h
      exact .openPlain flags
    · split at h
      · simp at h
      · cases h
        exact .setFlags flags
  · cases h
    exact .openRecording s.names

theorem move_of_readRepetition {least : Nat} {most : Option Nat}
    (h : readRepetition s least most t = some (s', t')) : Move s s' := by
  obtain ⟨s1, hs, ⟨⟩⟩ := Option.bind_eq_some_iff.1 h
  exact .again hs

theorem lastGroup_of_regex? {f : Flags} {e : Escape} {r : Regex} (h : e.regex? f = some r) :
    lastGroup r = 0 := by
  unfold Escape.regex? at h
  split at h
  · rw [Flags.literal?] at h
    split at h
    · simp at h
    · cases h
      rfl
  · cases h
    rfl
  · obtain ⟨c, -, rfl⟩ := Option.map_eq_some_iff.1 h
    rfl

/-- **What an element does to a reader.** -/
theorem move_of_step (h : step s t = some (s', t')) : Move s s' := by
  unfold step at h
  split at h
  · simp at h
  · exact move_of_readGroup h
  · obtain ⟨s1, hs, ⟨⟩⟩ := Option.map_eq_some_iff.1 h
    exact .close hs
  · cases h
    exact .alternative
  · obtain ⟨r, -, ⟨⟩⟩ := Option.map_eq_some_iff.1 h
    exact .item rfl
  · exact move_of_readRepetition h
  · exact move_of_readRepetition h
  · exact move_of_readRepetition h
  · obtain ⟨b, -, h⟩ := Option.bind_eq_some_iff.1 h
    exact move_of_readRepetition h
  · obtain ⟨e, -, h⟩ := Option.bind_eq_some_iff.1 h
    obtain ⟨r, hr, ⟨⟩⟩ := Option.bind_eq_some_iff.1 h
    exact .item (lastGroup_of_regex? hr)
  · obtain ⟨r, hr, ⟨⟩⟩ := Option.map_eq_some_iff.1 h
    refine .item ?_
    rw [Flags.dot?] at hr
    repeat' split at hr
    · simp at hr
    all_goals
      cases hr
      rfl
  · cases h
    exact .item rfl
  · cases h
    exact .item rfl
  · obtain ⟨r, hr, ⟨⟩⟩ := Option.map_eq_some_iff.1 h
    exact .item (lastGroup_of_regex? (e := .literal _ false) hr)

/-- The open groups change by one at most. A group that records gets the next number. -/
theorem Move.outer (h : Move s s') :
    s'.outer = s.outer ∧ s'.groups = s.groups ∨
      (∃ frame, s.outer = frame :: s'.outer ∧ s'.groups = s.groups) ∨
      ∃ frame, s'.outer = frame :: s.outer ∧ (frame.index = none ∧ s'.groups = s.groups ∨
        frame.index = some (s.groups + 1) ∧ s'.groups = s.groups + 1) := by
  cases h with
  | item _ | alternative | setFlags _ => exact .inl ⟨rfl, rfl⟩
  | again h =>
      rw [repeatLast?] at h
      split at h
      · cases h
        exact .inl ⟨rfl, rfl⟩
      · simp at h
  | close h =>
      rw [closeGroup?] at h
      split at h
      · simp at h
      · rename_i frame outer houter
        cases h
        exact .inr (.inl ⟨frame, houter, rfl⟩)
  | openPlain _ => exact .inr (.inr ⟨_, rfl, .inl ⟨rfl, rfl⟩⟩)
  | openRecording _ => exact .inr (.inr ⟨_, rfl, .inr ⟨rfl, rfl⟩⟩)

/-- The groups of all that a reader has read are among the ones that it has counted. -/
structure Numbered (s : Reader) : Prop where
  items : ∀ r, some r ∈ s.items → lastGroup r ≤ s.groups
  alternatives : ∀ r ∈ s.alternatives, lastGroup r ≤ s.groups
  outer : ∀ frame ∈ s.outer, (∀ i ∈ frame.index, i ≤ s.groups) ∧
    (∀ r, some r ∈ frame.items → lastGroup r ≤ s.groups) ∧
    ∀ r ∈ frame.alternatives, lastGroup r ≤ s.groups

namespace Numbered

theorem sequence_items (h : s.Numbered) :
    lastGroup (sequence (s.items.reverse.filterMap id)) ≤ s.groups :=
  lastGroup_sequence_le fun r hr => h.items r (by simpa using hr)

theorem current (h : s.Numbered) : lastGroup s.current ≤ s.groups := by
  refine lastGroup_choice_le fun r hr => ?_
  rcases List.mem_cons.1 (List.mem_reverse.1 hr) with rfl | hr
  · exact h.sequence_items
  · exact h.alternatives r hr

/-- **The groups of what is read are among the ones that are counted.** -/
theorem move (h : s.Numbered) (hmove : Move s s') : s'.Numbered := by
  cases hmove with
  | @item r hr =>
      refine ⟨fun r' hr' => ?_, h.alternatives, h.outer⟩
      rcases List.mem_cons.1 hr' with heq | hr'
      · cases heq
        exact hr ▸ Nat.zero_le _
      · exact h.items r' hr'
  | alternative =>
      exact ⟨by simp [nextAlternative], List.forall_mem_cons.2 ⟨h.sequence_items, h.alternatives⟩,
        h.outer⟩
  | @again _ least most greedy hagain =>
      rw [repeatLast?] at hagain
      split at hagain
      · rename_i r items hitems
        cases hagain
        refine ⟨fun r' hr' => ?_, h.alternatives, h.outer⟩
        rcases List.mem_cons.1 hr' with heq | hr'
        · cases heq
          have hr := h.items r (by simp [hitems])
          simp only [lastGroup]
          split
          · exact Nat.zero_le _
          · exact hr
        · exact h.items r' (by simp [hitems, hr'])
      · simp at hagain
  | close hclose =>
      rw [closeGroup?] at hclose
      split at hclose
      · simp at hclose
      · rename_i frame outer houter
        cases hclose
        obtain ⟨⟨hindex, hitems, halternatives⟩, hrest⟩ := List.forall_mem_cons.1 (houter ▸ h.outer)
        refine ⟨fun r' hr' => ?_, halternatives, hrest⟩
        rcases List.mem_cons.1 hr' with heq | hr'
        · obtain rfl := Option.some.inj heq
          cases hi : frame.index with
          | none => exact h.current
          | some i => exact Nat.max_le.2 ⟨hindex i hi, h.current⟩
        · exact hitems r' hr'
  | openPlain flags =>
      exact ⟨by simp [openGroup], by simp [openGroup],
        List.forall_mem_cons.2 ⟨⟨by simp, h.items, h.alternatives⟩, h.outer⟩⟩
  | setFlags flags =>
      exact ⟨fun r hr => h.items r (by simpa using hr), h.alternatives, h.outer⟩
  | openRecording names =>
      refine ⟨by simp [openCapture, openGroup], by simp [openCapture, openGroup],
        List.forall_mem_cons.2 ⟨⟨?_, ?_, ?_⟩, fun frame hf => ?_⟩⟩
      · simp [openCapture]
      · exact fun r hr => Nat.le_succ_of_le (h.items r hr)
      · exact fun r hr => Nat.le_succ_of_le (h.alternatives r hr)
      · obtain ⟨hindex, hitems, halternatives⟩ := h.outer frame hf
        exact ⟨fun i hi => Nat.le_succ_of_le (hindex i hi),
          fun r hr => Nat.le_succ_of_le (hitems r hr),
          fun r hr => Nat.le_succ_of_le (halternatives r hr)⟩

theorem initial : Reader.initial.Numbered :=
  ⟨by simp [Reader.initial], by simp [Reader.initial], by simp [Reader.initial]⟩

theorem reaches {x y : Reader × Text} (h : x.1.Numbered) (hreaches : Reaches x y) :
    y.1.Numbered := by
  induction hreaches with
  | refl => exact h
  | tail _ hgoes ih => exact ih.move (move_of_step hgoes.1)

end Numbered

end Reader

end UrlMatch.Regex
