import Mathlib.Data.Finset.Prod
import UrlMatch.Regex.Search

/-!
# Runs of programs

A program matches when the machine can run from its first instruction, at some position of the
input, to a state behind its last one. The search of `Program.find?` follows the runs one after
the other and leaves out what it has tried; here it is shown to miss none. What has been tried
when the stack is empty is closed under the machine's steps and holds no state behind the last
instruction, so no run leads from it to such a state.

## Main results

* `find?_run`: a match that is found is the end of a run, with the slots recorded on it.
* `isMatch_iff`: **the search is complete** — there is a match exactly if there is a run from
  some position to a state behind the last instruction.
-/

namespace UrlMatch.Regex

variable {insts : Array Inst} {input : Array Char}

/-! ### Runs -/

/-- The machine goes from one state to another by one instruction. -/
def Thread.Steps (insts : Array Inst) (input : Array Char) (t u : Thread) : Prop :=
  ∃ i, insts[t.pc]? = some i ∧ u ∈ t.next input i

/-- The machine goes from one state to another by a number of instructions. -/
inductive Run (insts : Array Inst) (input : Array Char) : Nat → Thread → Thread → Prop
  | refl (t : Thread) : Run insts input 0 t t
  | step {n : Nat} {t u v : Thread} (head : t.Steps insts input u) (rest : Run insts input n u v) :
      Run insts input (n + 1) t v

/-- A state behind the last instruction. -/
def Thread.Final (insts : Array Inst) (t : Thread) : Prop := insts[t.pc]? = none

theorem Run.trans {m n : Nat} {t u v : Thread} (h : Run insts input m t u)
    (h' : Run insts input n u v) : Run insts input (m + n) t v := by
  induction h with
  | refl t => simpa using h'
  | step head rest ih => exact Nat.add_right_comm _ _ _ ▸ .step head (ih h')

theorem Run.single {t u : Thread} (h : t.Steps insts input u) : Run insts input 1 t u :=
  .step h (.refl u)

namespace Thread

variable {t u : Thread}

theorem mem_next_char {c : CharClass} : u ∈ t.next input (.char c) ↔
    ∃ x, input[t.pos]? = some x ∧ c.holds x.toNat ∧ u = ⟨t.pc + 1, t.pos + 1, t.slots⟩ := by
  cases hx : input[t.pos]? with
  | none => simp [next, hx]
  | some x => by_cases hc : c.holds x.toNat <;> simp [next, hx, hc]

theorem mem_next_look {l : Look} : u ∈ t.next input (.look l) ↔
    l.holds (if t.pos = 0 then none else input[t.pos - 1]?) input[t.pos]? ∧
      u = ⟨t.pc + 1, t.pos, t.slots⟩ := by
  simp only [next]
  split <;> simp_all

theorem mem_next_save {slot : Nat} : u ∈ t.next input (.save slot) ↔
    u = ⟨t.pc + 1, t.pos, (slot, t.pos) :: t.slots⟩ := by
  simp [next]

theorem mem_next_jump {target : Nat} : u ∈ t.next input (.jump target) ↔
    u = ⟨target, t.pos, t.slots⟩ := by
  simp [next]

theorem mem_next_fork {first second : Nat} : u ∈ t.next input (.fork first second) ↔
    u = ⟨first, t.pos, t.slots⟩ ∨ u = ⟨second, t.pos, t.slots⟩ := by
  simp [next]

/-- What a state leads to does not depend on the slots recorded so far. -/
theorem exists_mem_next {s : Thread} {i : Inst} (hu : u ∈ t.next input i)
    (hpc : s.pc = t.pc) (hpos : s.pos = t.pos) :
    ∃ v ∈ s.next input i, v.pc = u.pc ∧ v.pos = u.pos := by
  cases i with
  | char c =>
      obtain ⟨x, hx, hc, rfl⟩ := mem_next_char.1 hu
      exact ⟨_, mem_next_char.2 ⟨x, hpos ▸ hx, hc, rfl⟩, by rw [hpc], by rw [hpos]⟩
  | look l =>
      obtain ⟨hl, rfl⟩ := mem_next_look.1 hu
      exact ⟨_, mem_next_look.2 ⟨by rwa [hpos], rfl⟩, by rw [hpc], hpos⟩
  | save slot =>
      obtain rfl := mem_next_save.1 hu
      exact ⟨_, mem_next_save.2 rfl, by rw [hpc], hpos⟩
  | jump target =>
      obtain rfl := mem_next_jump.1 hu
      exact ⟨_, mem_next_jump.2 rfl, rfl, hpos⟩
  | fork first second =>
      rcases mem_next_fork.1 hu with rfl | rfl
      · exact ⟨_, mem_next_fork.2 (.inl rfl), rfl, hpos⟩
      · exact ⟨_, mem_next_fork.2 (.inr rfl), rfl, hpos⟩

/-- An instruction leads to at most two states. -/
theorem length_next_le (t : Thread) (i : Inst) : (t.next input i).length ≤ 2 := by
  cases i with
  | char c =>
      rw [next]
      split
      · split <;> simp
      · simp
  | look l =>
      rw [next]
      split <;> split <;> simp
  | save slot => simp [next]
  | jump target => simp [next]
  | fork first second => simp [next]

/-- The machine stays within the input. -/
theorem pos_le_of_mem_next {i : Inst} (hu : u ∈ t.next input i) (ht : t.pos ≤ input.size) :
    u.pos ≤ input.size := by
  cases i with
  | char c =>
      obtain ⟨x, hx, -, rfl⟩ := mem_next_char.1 hu
      exact (Array.getElem?_eq_some_iff.1 hx).1
  | look l =>
      obtain ⟨-, rfl⟩ := mem_next_look.1 hu
      exact ht
  | save slot =>
      obtain rfl := mem_next_save.1 hu
      exact ht
  | jump target =>
      obtain rfl := mem_next_jump.1 hu
      exact ht
  | fork first second => rcases mem_next_fork.1 hu with rfl | rfl <;> exact ht

end Thread

/-! ### What has been tried -/

namespace Tried

@[simp] theorem size_empty (n : Nat) : (empty n).masks.size = n + 1 := by simp [empty]

@[simp] theorem has_empty (n pc pos : Nat) : (empty n).has pc pos = false := by
  simp only [has, empty, Array.getElem?_replicate]
  split <;> simp

@[simp] theorem size_add (s : Tried) (pc pos : Nat) : (s.add pc pos).masks.size = s.masks.size := by
  simp [add]

/-- After an addition a state has been tried if it had been before or is the one added. -/
theorem has_add (s : Tried) {pc pos : Nat} (hpos : pos < s.masks.size) (pc' pos' : Nat) :
    (s.add pc pos).has pc' pos' = (s.has pc' pos' || (pc' == pc && pos' == pos)) := by
  simp only [has, add, Array.getElem?_modify]
  by_cases h : pos = pos'
  · subst h
    simp [Array.getElem?_eq_getElem hpos, Nat.testBit_or, Nat.one_shiftLeft, Nat.testBit_two_pow,
      BEq.comm (a := pc'), beq_eq_decide]
  · simp [h, Ne.symm h]

end Tried

/-- Every state that has been tried has an instruction, and all that follows from it by the
instruction has been tried too or waits on the stack. -/
def ClosedUpTo (insts : Array Inst) (input : Array Char) (tried : Tried) (stack : List Thread) :
    Prop :=
  ∀ t : Thread, tried.has t.pc t.pos → ∃ i, insts[t.pc]? = some i ∧
    ∀ u ∈ t.next input i, tried.has u.pc u.pos ∨ ∃ s ∈ stack, s.pc = u.pc ∧ s.pos = u.pos

/-- A state that has been tried may leave the stack. -/
theorem ClosedUpTo.drop {tried : Tried} {t : Thread} {stack : List Thread}
    (h : ClosedUpTo insts input tried (t :: stack)) (ht : tried.has t.pc t.pos) :
    ClosedUpTo insts input tried stack := by
  intro s hs
  obtain ⟨i, hi, hnext⟩ := h s hs
  refine ⟨i, hi, fun u hu => ?_⟩
  rcases hnext u hu with htried | ⟨v, hv, hpc, hpos⟩
  · exact .inl htried
  · rcases List.mem_cons.1 hv with rfl | hv
    · exact .inl (by rwa [← hpc, ← hpos])
    · exact .inr ⟨v, hv, hpc, hpos⟩

/-- A state is tried when all that follows from it is put in its place on the stack. -/
theorem ClosedUpTo.add {tried : Tried} {t : Thread} {stack : List Thread} {i : Inst}
    (h : ClosedUpTo insts input tried (t :: stack)) (hpos : t.pos < tried.masks.size)
    (hi : insts[t.pc]? = some i) :
    ClosedUpTo insts input (tried.add t.pc t.pos) (t.next input i ++ stack) := by
  intro s hs
  rw [Tried.has_add _ hpos, Bool.or_eq_true] at hs
  rcases hs with hs | hs
  · obtain ⟨j, hj, hnext⟩ := h s hs
    refine ⟨j, hj, fun u hu => ?_⟩
    rw [Tried.has_add _ hpos]
    rcases hnext u hu with htried | ⟨v, hv, hvpc, hvpos⟩
    · exact .inl (by simp [htried])
    · rcases List.mem_cons.1 hv with rfl | hv
      · exact .inl (by simp [hvpc, hvpos])
      · exact .inr ⟨v, List.mem_append_right _ hv, hvpc, hvpos⟩
  · obtain ⟨hspc, hspos⟩ : s.pc = t.pc ∧ s.pos = t.pos := by simpa using hs
    refine ⟨i, hspc ▸ hi, fun u hu => .inr ?_⟩
    obtain ⟨v, hv, hv'⟩ := Thread.exists_mem_next hu hspc.symm hspos.symm
    exact ⟨v, List.mem_append_left _ hv, hv'⟩

/-- The states that have not been tried. -/
def untried (insts : Array Inst) (input : Array Char) (tried : Tried) : Finset (Nat × Nat) :=
  (Finset.range insts.size ×ˢ Finset.range (input.size + 1)).filter fun p => !tried.has p.1 p.2

theorem card_untried_le (tried : Tried) :
    (untried insts input tried).card ≤ insts.size * (input.size + 1) :=
  (Finset.card_filter_le _ _).trans (by simp)

/-- To try a state leaves fewer to be tried. -/
theorem card_untried_add {tried : Tried} {pc pos : Nat} (hsize : tried.masks.size = input.size + 1)
    (hpc : pc < insts.size) (hpos : pos ≤ input.size) (h : tried.has pc pos = false) :
    (untried insts input (tried.add pc pos)).card < (untried insts input tried).card := by
  have hadd (pc' pos' : Nat) : (tried.add pc pos).has pc' pos' =
      (tried.has pc' pos' || (pc' == pc && pos' == pos)) := tried.has_add (by omega) pc' pos'
  refine Finset.card_lt_card (Finset.ssubset_iff_of_subset ?_ |>.2 ⟨(pc, pos), ?_, ?_⟩)
  · intro p hp
    simp only [untried, Finset.mem_filter, hadd] at hp ⊢
    exact ⟨hp.1, by simp_all⟩
  · simp only [untried, Finset.mem_filter, Finset.mem_product, Finset.mem_range]
    exact ⟨⟨hpc, by omega⟩, by simp [h]⟩
  · simp [untried, hadd]

/-- No run leads from a state that has been tried to a state behind the last instruction, once
nothing waits any more. -/
theorem ClosedUpTo.not_final {tried : Tried} (h : ClosedUpTo insts input tried []) {n : Nat}
    {t f : Thread} (hrun : Run insts input n t f) (ht : tried.has t.pc t.pos) :
    ¬ f.Final insts := by
  induction hrun with
  | refl t =>
      obtain ⟨i, hi, -⟩ := h t ht
      simp [Thread.Final, hi]
  | step head rest ih =>
      obtain ⟨i, hi, hnext⟩ := h _ ht
      obtain ⟨j, hj, hu⟩ := head
      obtain rfl : i = j := Option.some.inj (hi.symm.trans hj)
      exact ih (by simpa using hnext _ hu)

/-! ### The search -/

/-- What the search finds is reached by a run from a state on the stack. -/
theorem run_of_explore {fuel : Nat} {tried : Tried} {stack : List Thread} {f : Thread}
    (h : (explore insts input fuel tried stack).1 = some f) :
    f.Final insts ∧ ∃ t ∈ stack, ∃ n, Run insts input n t f := by
  induction fuel generalizing tried stack with
  | zero => simp [explore] at h
  | succ fuel ih =>
      cases stack with
      | nil => simp [explore] at h
      | cons t stack =>
          rw [explore] at h
          split at h
          · obtain ⟨hf, s, hs, hrun⟩ := ih h
            exact ⟨hf, s, List.mem_cons_of_mem _ hs, hrun⟩
          · split at h
            · rename_i hnone
              obtain rfl : t = f := by simpa using h
              exact ⟨hnone, t, List.mem_cons_self, 0, .refl t⟩
            · rename_i i hi
              obtain ⟨hf, s, hs, n, hrun⟩ := ih h
              rcases List.mem_append.1 hs with hs | hs
              · exact ⟨hf, t, List.mem_cons_self, n + 1, .step ⟨i, hi, hs⟩ hrun⟩
              · exact ⟨hf, s, List.mem_cons_of_mem _ hs, n, hrun⟩

/-- With enough fuel, a search that finds nothing has tried all that the stack leads to. -/
theorem closed_of_explore {fuel : Nat} {tried : Tried} {stack : List Thread}
    (hsize : tried.masks.size = input.size + 1) (hpos : ∀ t ∈ stack, t.pos ≤ input.size)
    (hclosed : ClosedUpTo insts input tried stack)
    (hfuel : stack.length + 2 * (untried insts input tried).card < fuel)
    (h : (explore insts input fuel tried stack).1 = none) :
    let tried' := (explore insts input fuel tried stack).2
    tried'.masks.size = input.size + 1 ∧ ClosedUpTo insts input tried' [] ∧
      (∀ pc pos, tried.has pc pos → tried'.has pc pos) ∧
      ∀ t ∈ stack, tried'.has t.pc t.pos := by
  induction fuel generalizing tried stack with
  | zero => omega
  | succ fuel ih =>
      cases stack with
      | nil => exact ⟨hsize, hclosed, fun _ _ ht => ht, by simp⟩
      | cons t stack =>
          rw [List.forall_mem_cons] at hpos
          rw [List.length_cons] at hfuel
          rw [explore] at h ⊢
          by_cases ht : tried.has t.pc t.pos
          · simp only [ht, if_true] at h ⊢
            obtain ⟨h1, h2, h3, h4⟩ := ih hsize hpos.2 (hclosed.drop ht) (by omega) h
            exact ⟨h1, h2, h3, List.forall_mem_cons.2 ⟨h3 _ _ ht, h4⟩⟩
          · simp only [ht, Bool.false_eq_true, if_false] at h ⊢
            cases hi : insts[t.pc]? with
            | none => simp [hi] at h
            | some i =>
                simp only [hi] at h ⊢
                have hlt : t.pos < tried.masks.size := by omega
                have hless : (untried insts input (tried.add t.pc t.pos)).card <
                    (untried insts input tried).card :=
                  card_untried_add hsize (Array.getElem?_eq_some_iff.1 hi).1 hpos.1
                    (by simpa using ht)
                have hlength : (t.next input i).length ≤ 2 := t.length_next_le i
                have hnext : ∀ s ∈ t.next input i ++ stack, s.pos ≤ input.size := fun s hs =>
                  (List.mem_append.1 hs).elim (Thread.pos_le_of_mem_next · hpos.1) (hpos.2 s)
                obtain ⟨h1, h2, h3, h4⟩ := ih (by simpa using hsize) hnext (hclosed.add hlt hi)
                  (by rw [List.length_append]; omega) h
                refine ⟨h1, h2, fun pc pos hs => h3 pc pos (by simp [tried.has_add hlt, hs]), ?_⟩
                exact List.forall_mem_cons.2 ⟨h3 _ _ (by simp [tried.has_add hlt]),
                  fun s hs => h4 s (List.mem_append_right _ hs)⟩

/-- A search from a single position starts with enough fuel. -/
theorem fuel_le (tried : Tried) :
    1 + 2 * (untried insts input tried).card < fuelFor insts input := by
  have h : (untried insts input tried).card ≤ insts.size * (input.size + 1) :=
    card_untried_le tried
  rw [fuelFor, Nat.add_mul]
  omega

/-- What is found is reached from the start of the program at one of the positions searched. -/
theorem run_of_findFrom {tried : Tried} {start remaining : Nat} {f : Thread}
    (h : findFrom insts input tried start remaining = some f) :
    f.Final insts ∧ ∃ j ≤ start + remaining, ∃ n, Run insts input n ⟨0, j, []⟩ f := by
  cases hx : explore insts input (fuelFor insts input) tried [⟨0, start, []⟩] with
  | mk found tried' =>
      cases found with
      | some t =>
          obtain rfl : t = f := by
            cases remaining <;> simpa [findFrom, hx] using h
          obtain ⟨hf, s, hs, n, hrun⟩ := run_of_explore (congrArg Prod.fst hx)
          obtain rfl : s = _ := by simpa using hs
          exact ⟨hf, start, by omega, n, hrun⟩
      | none =>
          cases remaining with
          | zero => simp [findFrom, hx] at h
          | succ remaining =>
              rw [findFrom, hx] at h
              obtain ⟨hf, j, hj, hrun⟩ := run_of_findFrom h
              exact ⟨hf, j, by omega, hrun⟩

/-- A search that finds nothing leaves no run from one of its positions to a state behind the last
instruction. -/
theorem not_final_of_findFrom {tried : Tried} {start remaining : Nat}
    (hsize : tried.masks.size = input.size + 1) (hremaining : start + remaining ≤ input.size)
    (hclosed : ClosedUpTo insts input tried [])
    (h : findFrom insts input tried start remaining = none) {j n : Nat} {f : Thread}
    (hstart : start ≤ j) (hj : j ≤ start + remaining) (hrun : Run insts input n ⟨0, j, []⟩ f) :
    ¬ f.Final insts := by
  cases hx : explore insts input (fuelFor insts input) tried [⟨0, start, []⟩] with
  | mk found tried' =>
      cases found with
      | some t => cases remaining <;> simp [findFrom, hx] at h
      | none =>
          have hwaiting : ClosedUpTo insts input tried [⟨0, start, []⟩] := fun t ht => by
            obtain ⟨i, hi, hnext⟩ := hclosed t ht
            exact ⟨i, hi, fun u hu => .inl (by simpa using hnext u hu)⟩
          obtain ⟨hsize', hclosed', -, hstarted⟩ := closed_of_explore hsize (by simp; omega)
            hwaiting (fuel_le tried) (congrArg Prod.fst hx)
          rw [hx] at hsize' hclosed' hstarted
          rcases hstart.eq_or_lt with rfl | hlt
          · exact hclosed'.not_final hrun (hstarted _ List.mem_cons_self)
          · cases remaining with
            | zero => omega
            | succ remaining =>
                rw [findFrom, hx] at h
                exact not_final_of_findFrom hsize' (by omega) hclosed' h hlt (by omega) hrun

/-! ### Matches of programs -/

namespace Program

/-- **A match that is found is the end of a run**, with the slots recorded on it. -/
theorem find?_run {p : Program} {t : Text} {m : Found} (h : p.find? t = some m) :
    ∃ j ≤ t.length, ∃ n f, Run p.insts t.toArray n ⟨0, j, []⟩ f ∧ f.Final p.insts ∧
      f.slots = m.slots := by
  obtain ⟨f, hfind, rfl⟩ := Option.map_eq_some_iff.1 h
  obtain ⟨hf, j, hj, n, hrun⟩ := run_of_findFrom hfind
  exact ⟨j, by simpa using hj, n, f, hrun, hf, rfl⟩

/-- **The search is complete.** There is a match exactly if there is a run from some position to a
state behind the last instruction. -/
theorem isMatch_iff {p : Program} {t : Text} : p.isMatch t ↔
    ∃ j ≤ t.length, ∃ n f, Run p.insts t.toArray n ⟨0, j, []⟩ f ∧ f.Final p.insts := by
  constructor
  · intro h
    obtain ⟨m, hm⟩ := Option.isSome_iff_exists.1 h
    obtain ⟨j, hj, n, f, hrun, hf, -⟩ := find?_run hm
    exact ⟨j, hj, n, f, hrun, hf⟩
  · rintro ⟨j, hj, n, f, hrun, hf⟩
    rw [isMatch, find?, Option.isSome_map, ← Option.not_isNone, Bool.not_eq_true']
    refine Bool.eq_false_iff.2 fun hnone => ?_
    exact not_final_of_findFrom (by simp) (by simp) (by simp [ClosedUpTo])
      (Option.isNone_iff_eq_none.1 hnone) (Nat.zero_le j) (by simpa using hj) hrun hf

end Program

end UrlMatch.Regex
