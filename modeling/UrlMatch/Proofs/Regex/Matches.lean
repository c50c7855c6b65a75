import UrlMatch.Proofs.Regex.Search

/-!
# What regular expressions match

`Matches t r i j u` says that the expression `r` matches the text `t` between the positions `i` and
`j` and records `u` on the way. It is the meaning of expressions without the machine: the order of
choices plays no part, and a repetition is a number of matches one after the other. The code of an
expression leads from its address to the address behind it on just these ways.

## Main results

* `implements_code`: **code is correct** — every match is a run through the code, and every run
  through the code to the end of the program begins with a match.
* `isMatch_program_iff`: a program matches a text exactly if its expression does.
* `matches_of_find?`: what a program finds is recorded on a match of its expression.
-/

namespace UrlMatch.Regex

/-! ### Ways -/

/-- What has been recorded, last first. -/
abbrev Slots := List (Nat × Nat)

/-- The ways to go from one position to another, with what is recorded on them. -/
abbrev Way := Nat → Nat → Slots → Prop

namespace Way

/-- To stay where one is. -/
def stay : Way := fun i j u => j = i ∧ u = []

/-- To record the position. -/
def mark (slot : Nat) : Way := fun i j u => j = i ∧ u = [(slot, i)]

/-- One way, and then another. -/
def andThen (R S : Way) : Way := fun i j u => ∃ k v w, R i k v ∧ S k j w ∧ u = w ++ v

/-- To record where a way begins and where it ends. -/
def group (k : Nat) (R : Way) : Way := (mark (2 * k)).andThen (R.andThen (mark (2 * k + 1)))

/-- One way or the other. -/
def orElse (R S : Way) : Way := fun i j u => R i j u ∨ S i j u

/-- The same way a number of times. -/
def times (R : Way) : Nat → Way
  | 0 => stay
  | n + 1 => R.andThen (R.times n)

/-- The same way a number of times that is permitted. -/
def repeated (R : Way) (permits : Nat → Prop) : Way := fun i j u => ∃ n, permits n ∧ R.times n i j u

/-- The two positions are recorded around what is recorded within. -/
theorem group_iff {k : Nat} {R : Way} {i j : Nat} {u : Slots} :
    R.group k i j u ↔ ∃ v, R i j v ∧ u = (2 * k + 1, j) :: (v ++ [(2 * k, i)]) := by
  constructor
  · rintro ⟨_, _, _, ⟨rfl, rfl⟩, ⟨_, v, _, hv, ⟨rfl, rfl⟩, rfl⟩, rfl⟩
    exact ⟨v, hv, rfl⟩
  · rintro ⟨v, hv, rfl⟩
    exact ⟨i, _, _, ⟨rfl, rfl⟩, ⟨j, v, _, hv, ⟨rfl, rfl⟩, rfl⟩, rfl⟩

@[simp] theorem stay_andThen (R : Way) : stay.andThen R = R := by
  funext i j u
  simp [andThen, stay]

@[simp] theorem andThen_stay (R : Way) : R.andThen stay = R := by
  funext i j u
  simp [andThen, stay]

theorem andThen_assoc (R S T : Way) : (R.andThen S).andThen T = R.andThen (S.andThen T) := by
  funext i j u
  refine propext ⟨?_, ?_⟩
  · rintro ⟨k, _, z, ⟨l, v, w, hR, hS, rfl⟩, hT, rfl⟩
    exact ⟨l, v, z ++ w, hR, ⟨k, w, z, hS, hT, rfl⟩, (List.append_assoc ..).symm⟩
  · rintro ⟨l, v, _, hR, ⟨k, w, z, hS, hT, rfl⟩, rfl⟩
    exact ⟨k, w ++ v, z, ⟨l, v, w, hR, hS, rfl⟩, hT, List.append_assoc ..⟩

@[simp] theorem times_one (R : Way) : R.times 1 = R := by simp [times]

theorem times_add (R : Way) (m n : Nat) : R.times (m + n) = (R.times m).andThen (R.times n) := by
  induction m with
  | zero => simp [times]
  | succ m ih => rw [Nat.add_right_comm, times, times, ih, andThen_assoc]

theorem times_succ (R : Way) (n : Nat) : R.times (n + 1) = (R.times n).andThen R := by
  rw [times_add, times_one]

/-- A number of times, and then any further number of times. -/
theorem times_andThen_repeated (R : Way) (m : Nat) (permits : Nat → Prop) :
    (R.times m).andThen (R.repeated permits) = R.repeated fun n => m ≤ n ∧ permits (n - m) := by
  funext i j u
  refine propext ⟨?_, ?_⟩
  · rintro ⟨k, v, w, hR, ⟨n, hn, hS⟩, rfl⟩
    refine ⟨m + n, ⟨Nat.le_add_right m n, by rwa [Nat.add_sub_cancel_left]⟩, ?_⟩
    rw [times_add]
    exact ⟨k, v, w, hR, hS, rfl⟩
  · rintro ⟨n, ⟨hle, hn⟩, h⟩
    rw [← Nat.add_sub_cancel' hle, times_add] at h
    obtain ⟨k, v, w, hR, hS, rfl⟩ := h
    exact ⟨k, v, w, hR, ⟨n - m, hn, hS⟩, rfl⟩

/-- To go a way exactly once is to go it. -/
@[simp] theorem repeated_eq_one (R : Way) : R.repeated (· = 1) = R := by
  funext i j u
  simp [repeated]

/-- A repetition that may be left out is made of a first time and of the others. -/
theorem andThen_repeated_orElse_stay (R : Way) {p : Nat → Prop} (h : p 0) :
    (R.andThen (R.repeated fun n => p (n + 1))).orElse stay = R.repeated p := by
  funext i j u
  refine propext ⟨?_, ?_⟩
  · rintro (⟨k, v, w, hR, ⟨n, hn, hS⟩, rfl⟩ | hstay)
    · exact ⟨n + 1, hn, k, v, w, hR, hS, rfl⟩
    · exact ⟨0, h, hstay⟩
  · rintro ⟨n, hn, hR⟩
    cases n with
    | zero => exact .inr hR
    | succ n =>
        obtain ⟨k, v, w, hR, hS, rfl⟩ := hR
        exact .inl ⟨k, v, w, hR, ⟨n, hn, hS⟩, rfl⟩

end Way

/-! ### Matches -/

/-- A look holds at a position of a text. -/
def Look.HoldsAt (l : Look) (t : Text) (i : Nat) : Prop :=
  l.holds (if i = 0 then none else t[i - 1]?) t[i]? = true

/-- The numbers of times that a repetition may take. -/
def Permits (least : Nat) (most : Option Nat) (n : Nat) : Prop :=
  least ≤ n ∧ ∀ m ∈ most, n ≤ max least m

theorem permits_none (least : Nat) : Permits least none = (least ≤ ·) := by
  funext n
  simp [Permits]

theorem permits_some (least most : Nat) :
    Permits least (some most) = fun n => least ≤ n ∧ n - least ≤ most - least := by
  funext n
  simp only [Permits, Option.mem_some_iff, forall_eq', eq_iff_iff]
  omega

/-- The ways on which an expression matches a text. -/
def Matches (t : Text) : Regex → Way
  | .empty => .stay
  | .one c => fun i j u => (∃ x, t[i]? = some x ∧ c.holds x.toNat) ∧ j = i + 1 ∧ u = []
  | .look l => fun i j u => l.HoldsAt t i ∧ j = i ∧ u = []
  | .group k r => (Matches t r).group k
  | .seq a b => (Matches t a).andThen (Matches t b)
  | .alt a b => (Matches t a).orElse (Matches t b)
  | .repeated r least most _ => (Matches t r).repeated (Permits least most)

theorem matches_startText {t : Text} {i j : Nat} {u : Slots} (hi : i ≤ t.length) :
    Matches t (.look .startText) i j u ↔ i = 0 ∧ j = 0 ∧ u = [] := by
  have h : Look.startText.HoldsAt t i ↔ i = 0 := by
    simp [Look.HoldsAt, Look.holds]
    omega
  simp only [Matches, h]
  grind

theorem matches_endText {t : Text} {i j : Nat} {u : Slots} (hi : i ≤ t.length) :
    Matches t (.look .endText) i j u ↔ i = t.length ∧ j = t.length ∧ u = [] := by
  have h : Look.endText.HoldsAt t i ↔ i = t.length := by
    simp [Look.HoldsAt, Look.holds]
    omega
  simp only [Matches, h]
  grind

/-! ### Code that goes given ways -/

/-- Instructions stand at an address. -/
def CodeAt (insts : Array Inst) (pc : Nat) (is : List Inst) : Prop :=
  ∀ k i, is[k]? = some i → insts[pc + k]? = some i

theorem codeAt_cons {insts : Array Inst} {pc : Nat} {i : Inst} {is : List Inst} :
    CodeAt insts pc (i :: is) ↔ insts[pc]? = some i ∧ CodeAt insts (pc + 1) is := by
  constructor
  · intro h
    exact ⟨h 0 i rfl, fun k j hj => by simpa [Nat.add_assoc, Nat.add_comm 1] using h (k + 1) j hj⟩
  · rintro ⟨h0, h⟩ k j hj
    cases k with
    | zero => simpa [← Option.some.inj hj] using h0
    | succ k => simpa [Nat.add_assoc, Nat.add_comm 1] using h k j hj

theorem codeAt_append {insts : Array Inst} {pc : Nat} {as bs : List Inst} :
    CodeAt insts pc (as ++ bs) ↔ CodeAt insts pc as ∧ CodeAt insts (pc + as.length) bs := by
  induction as generalizing pc with
  | nil => simp [CodeAt]
  | cons a as ih =>
      rw [List.cons_append, codeAt_cons, codeAt_cons, ih, and_assoc, List.length_cons,
        Nat.add_assoc, Nat.add_comm 1]

/-- The first of several copies stands in front of the others. -/
theorem copies_succ (code : Nat → List Inst) (step n pc : Nat) :
    copies code step (n + 1) pc = code pc ++ copies code step n (pc + step) := by
  simp [copies, List.range_succ_eq_map, List.flatMap_map, Nat.succ_mul, Nat.add_assoc,
    Nat.add_comm step]

/-- The machine goes from one address to another on the given ways, as far as it reaches the end
of the program. -/
structure Implements (insts : Array Inst) (t : Text) (R : Way) (pc exit : Nat) : Prop where
  run {i j : Nat} {u : Slots} (w : Slots) (h : R i j u) :
    ∃ n, Run insts t.toArray n ⟨pc, i, w⟩ ⟨exit, j, u ++ w⟩
  back {n i : Nat} {w : Slots} {f : Thread} (hrun : Run insts t.toArray n ⟨pc, i, w⟩ f)
    (hf : f.Final insts) :
    ∃ j u m, R i j u ∧ m ≤ n ∧ Run insts t.toArray m ⟨exit, j, u ++ w⟩ f

/-- A run to the end of the program goes on from an instruction by that instruction. -/
theorem Run.next_of_final {insts : Array Inst} {input : Array Char} {n : Nat} {s f : Thread}
    {i : Inst} (hrun : Run insts input n s f) (hf : f.Final insts) (hi : insts[s.pc]? = some i) :
    ∃ m u, m < n ∧ u ∈ s.next input i ∧ Run insts input m u f := by
  cases hrun with
  | refl => simp [Thread.Final, hi] at hf
  | step head rest =>
      obtain ⟨j, hj, hu⟩ := head
      obtain rfl : i = j := Option.some.inj (hi.symm.trans hj)
      exact ⟨_, _, Nat.lt_succ_self _, hu, rest⟩

/-- At the fork of a repetition the machine goes to the body or to the exit. -/
theorem Thread.mem_next_again {input : Array Char} {t u : Thread} {greedy : Bool}
    {body exit : Nat} : u ∈ t.next input (.again greedy body exit) ↔
      u = ⟨body, t.pos, t.slots⟩ ∨ u = ⟨exit, t.pos, t.slots⟩ := by
  cases greedy with
  | true => exact mem_next_fork
  | false => exact mem_next_fork.trans or_comm

namespace Implements

variable {insts : Array Inst} {t : Text} {R S : Way} {pc next exit : Nat}

theorem stay : Implements insts t .stay pc pc where
  run := by
    rintro i _ _ w ⟨rfl, rfl⟩
    exact ⟨0, .refl _⟩
  back hrun _ := ⟨_, [], _, ⟨rfl, rfl⟩, Nat.le_refl _, hrun⟩

theorem andThen (hR : Implements insts t R pc next) (hS : Implements insts t S next exit) :
    Implements insts t (R.andThen S) pc exit where
  run := by
    rintro i j _ w ⟨k, u, v, hu, hv, rfl⟩
    obtain ⟨m, hm⟩ := hR.run w hu
    obtain ⟨n, hn⟩ := hS.run (u ++ w) hv
    exact ⟨m + n, by simpa using hm.trans hn⟩
  back hrun hf := by
    obtain ⟨k, u, m, hu, hm, hrun⟩ := hR.back hrun hf
    obtain ⟨j, v, l, hv, hl, hrun⟩ := hS.back hrun hf
    exact ⟨j, v ++ u, l, ⟨k, u, v, hu, hv, rfl⟩, hl.trans hm, by simpa using hrun⟩

/-- A single instruction that leads to the address behind it. -/
theorem single {i : Inst} (hi : insts[pc]? = some i)
    (h : ∀ p w s, s ∈ Thread.next t.toArray ⟨pc, p, w⟩ i ↔
      ∃ j u, R p j u ∧ s = ⟨exit, j, u ++ w⟩) : Implements insts t R pc exit where
  run w hR := ⟨1, .single ⟨i, hi, (h _ w _).2 ⟨_, _, hR, rfl⟩⟩⟩
  back hrun hf := by
    obtain ⟨m, s, hlt, hs, hrun⟩ := hrun.next_of_final hf hi
    obtain ⟨j, u, hR, rfl⟩ := (h _ _ _).1 hs
    exact ⟨j, u, m, hR, hlt.le, hrun⟩

theorem mark {slot : Nat} (hi : insts[pc]? = some (.save slot)) :
    Implements insts t (.mark slot) pc (pc + 1) :=
  single hi fun p w s => by simp [Thread.mem_next_save, Way.mark]

/-- Code that is entered at a fork goes one of two ways. -/
theorem fork {first second : Nat} (hi : insts[pc]? = some (.fork first second))
    (hR : Implements insts t R first exit) (hS : Implements insts t S second exit) :
    Implements insts t (R.orElse S) pc exit where
  run := by
    rintro i j u w (hu | hu)
    · obtain ⟨n, hn⟩ := hR.run w hu
      exact ⟨n + 1, .step ⟨_, hi, Thread.mem_next_fork.2 (.inl rfl)⟩ hn⟩
    · obtain ⟨n, hn⟩ := hS.run w hu
      exact ⟨n + 1, .step ⟨_, hi, Thread.mem_next_fork.2 (.inr rfl)⟩ hn⟩
  back hrun hf := by
    obtain ⟨m, s, hlt, hs, hrun⟩ := hrun.next_of_final hf hi
    rcases Thread.mem_next_fork.1 hs with rfl | rfl
    · obtain ⟨j, u, l, hu, hl, hrun⟩ := hR.back hrun hf
      exact ⟨j, u, l, .inl hu, hl.trans hlt.le, hrun⟩
    · obtain ⟨j, u, l, hu, hl, hrun⟩ := hS.back hrun hf
      exact ⟨j, u, l, .inr hu, hl.trans hlt.le, hrun⟩

theorem jump (hi : insts[pc]? = some (.jump exit)) : Implements insts t .stay pc exit :=
  single hi fun p w s => by simp [Thread.mem_next_jump, Way.stay]

/-- Code in front of an exit may be left out. -/
theorem again {greedy : Bool} {body : Nat} (hi : insts[pc]? = some (.again greedy body exit))
    (hR : Implements insts t R body exit) : Implements insts t (R.orElse .stay) pc exit where
  run := by
    rintro i j u w (hu | ⟨rfl, rfl⟩)
    · obtain ⟨n, hn⟩ := hR.run w hu
      exact ⟨n + 1, .step ⟨_, hi, Thread.mem_next_again.2 (.inl rfl)⟩ hn⟩
    · exact ⟨1, .single ⟨_, hi, Thread.mem_next_again.2 (.inr rfl)⟩⟩
  back hrun hf := by
    obtain ⟨m, s, hlt, hs, hrun⟩ := hrun.next_of_final hf hi
    rcases Thread.mem_next_again.1 hs with rfl | rfl
    · obtain ⟨j, u, l, hu, hl, hrun⟩ := hR.back hrun hf
      exact ⟨j, u, l, .inl hu, hl.trans hlt.le, hrun⟩
    · exact ⟨_, [], m, .inr ⟨rfl, rfl⟩, hlt.le, hrun⟩

/-- Code that stands several times, one copy behind the other. -/
theorem times {code : Nat → List Inst} {step n : Nat} (hstep : ∀ pc, (code pc).length = step)
    (hcode : CodeAt insts pc (copies code step n pc))
    (hR : ∀ pc, CodeAt insts pc (code pc) → Implements insts t R pc (pc + step)) :
    Implements insts t (R.times n) pc (pc + n * step) := by
  induction n generalizing pc with
  | zero => simpa [Way.times] using stay
  | succ n ih =>
      rw [copies_succ, codeAt_append, hstep] at hcode
      have h := (hR pc hcode.1).andThen (ih hcode.2)
      rwa [Nat.add_assoc, Nat.add_comm step, ← Nat.succ_mul] at h

/-- Copies of code that each may be the last. -/
theorem upTo {code : Nat → List Inst} {step n : Nat} {greedy : Bool}
    (hstep : ∀ pc, (code pc).length = step) (hexit : exit = pc + n * (step + 1))
    (hcode : CodeAt insts pc
      (copies (fun pc => .again greedy (pc + 1) exit :: code (pc + 1)) (step + 1) n pc))
    (hR : ∀ pc, CodeAt insts pc (code pc) → Implements insts t R pc (pc + step)) :
    Implements insts t (R.repeated (· ≤ n)) pc exit := by
  induction n generalizing pc with
  | zero =>
      obtain rfl : exit = pc := by simpa using hexit
      have h : R.repeated (· ≤ 0) = .stay := by
        funext i j u
        simp [Way.repeated, Way.times]
      exact h ▸ stay
  | succ n ih =>
      rw [copies_succ, codeAt_append, codeAt_cons, List.length_cons, hstep] at hcode
      obtain ⟨⟨hi, hbody⟩, hrest⟩ := hcode
      have hnext : Implements insts t (R.repeated (· ≤ n)) (pc + 1 + step) exit := by
        rw [Nat.add_assoc, Nat.add_comm 1]
        exact ih (by rw [hexit, Nat.succ_mul]; omega) hrest
      have h := again hi ((hR _ hbody).andThen hnext)
      rw [← R.andThen_repeated_orElse_stay (Nat.zero_le (n + 1))]
      simpa only [Nat.add_le_add_iff_right] using h

/-- A loop. At its end the machine goes back to its start or leaves. -/
theorem loop {greedy : Bool} {tail : Nat} (hi : insts[tail]? = some (.again greedy pc exit))
    (hR : Implements insts t R pc tail) :
    Implements insts t (R.repeated fun _ => True) tail exit where
  run := by
    rintro i j u w ⟨n, -, hu⟩
    induction n generalizing i u w with
    | zero =>
        obtain ⟨rfl, rfl⟩ := hu
        exact ⟨1, .single ⟨_, hi, Thread.mem_next_again.2 (.inr rfl)⟩⟩
    | succ n ih =>
        obtain ⟨k, u, v, hu, hv, rfl⟩ := hu
        obtain ⟨m, hm⟩ := hR.run w hu
        obtain ⟨l, hl⟩ := ih (u ++ w) hv
        have hback : Thread.Steps insts t.toArray ⟨tail, i, w⟩ ⟨pc, i, w⟩ :=
          ⟨_, hi, Thread.mem_next_again.2 (.inl rfl)⟩
        exact ⟨_, by simpa using (Run.step hback hm).trans hl⟩
  back := by
    intro n
    induction n using Nat.strong_induction_on with
    | _ n ih =>
        intro i w f hrun hf
        obtain ⟨m, s, hlt, hs, hrun⟩ := hrun.next_of_final hf hi
        rcases Thread.mem_next_again.1 hs with rfl | rfl
        · obtain ⟨k, u, l, hu, hl, hrun⟩ := hR.back hrun hf
          obtain ⟨j, v, m', ⟨n', -, hv⟩, hm', hrun⟩ := ih l (by omega) hrun hf
          exact ⟨j, v ++ u, m', ⟨n' + 1, trivial, k, u, v, hu, hv, rfl⟩, by omega,
            by simpa using hrun⟩
        · exact ⟨i, [], m, ⟨0, trivial, rfl, rfl⟩, hlt.le, hrun⟩

end Implements

/-! ### Correctness of code -/

theorem length_copies {code : Nat → List Inst} {step : Nat} (h : ∀ pc, (code pc).length = step)
    (n pc : Nat) : (copies code step n pc).length = n * step := by
  simp [copies, h]

/-- Code has the size that its expression says. -/
theorem length_code (r : Regex) (pc : Nat) : (code r pc).length = size r := by
  induction r generalizing pc with
  | empty => rfl
  | one c => rfl
  | look l => rfl
  | group k r ih => simp [code, size, ih]
  | seq a b iha ihb => simp [code, size, iha, ihb]
  | alt a b iha ihb =>
      simp only [code, size, List.length_append, List.length_cons, iha, ihb]
      omega
  | repeated r least most greedy ih =>
      cases most with
      | some m =>
          have hbody : ∀ exit pc, (Inst.again greedy (pc + 1) exit :: code r (pc + 1)).length =
            size r + 1 := fun exit pc => by simp [ih]
          simp [code, size, length_copies ih, length_copies (hbody _)]
      | none =>
          cases least with
          | zero => simp [code, size, ih]
          | succ n => simp [code, size, length_copies ih, ih, Nat.add_assoc]

/-- **Code is correct.** -/
theorem implements_code {insts : Array Inst} {t : Text} {r : Regex} {pc : Nat}
    (h : CodeAt insts pc (code r pc)) : Implements insts t (Matches t r) pc (pc + size r) := by
  induction r generalizing pc with
  | empty => exact .stay
  | one c =>
      refine .single (codeAt_cons.1 h).1 fun p w s => ?_
      simp only [Thread.mem_next_char, List.getElem?_toArray, Matches, size]
      grind
  | look l =>
      refine .single (codeAt_cons.1 h).1 fun p w s => ?_
      simp only [Thread.mem_next_look, List.getElem?_toArray, Matches, size, Look.HoldsAt]
      grind
  | group k r ih =>
      simp only [code, codeAt_cons, List.cons_append, codeAt_append, length_code] at h
      have hend := Implements.mark (t := t) h.2.2.1
      have hexit : pc + size (.group k r) = pc + 1 + size r + 1 := by
        simp only [size]
        omega
      exact hexit ▸ (Implements.mark h.1).andThen ((ih h.2.1).andThen hend)
  | seq a b iha ihb =>
      simp only [code, codeAt_append, length_code] at h
      have hab := (iha h.1).andThen (ihb h.2)
      rwa [Nat.add_assoc] at hab
  | alt a b iha ihb =>
      simp only [code, List.cons_append, codeAt_cons, codeAt_append, length_code] at h
      obtain ⟨hfork, ha, hjump, hb⟩ := h
      have hexit : pc + size (.alt a b) = pc + size a + size b + 2 := by
        simp only [size]
        omega
      have hleft := (iha ha).andThen (.jump hjump)
      have hright : Implements insts t (Matches t b) (pc + size a + 2)
          (pc + size a + size b + 2) := by
        have hcode : CodeAt insts (pc + size a + 2) (code b (pc + size a + 2)) := by
          convert hb using 1
          omega
        convert ihb hcode using 1
        omega
      rw [Way.andThen_stay] at hleft
      exact hexit ▸ .fork hfork hleft hright
  | repeated r least most greedy ih =>
      cases most with
      | some m =>
          simp only [code, codeAt_append, length_copies (length_code r)] at h
          have hfirst := Implements.times (length_code r) h.1 (fun pc => ih)
          have hrest := Implements.upTo (length_code r) rfl h.2 (fun pc => ih)
          have hall := hfirst.andThen hrest
          rw [Way.times_andThen_repeated, Nat.add_assoc] at hall
          simpa only [Matches, permits_some, size] using hall
      | none =>
          cases least with
          | zero =>
              simp only [code, List.cons_append, codeAt_append, codeAt_cons, length_code] at h
              obtain ⟨hfirst, hbody, htail, -⟩ := h
              have hloop := Implements.again hfirst ((ih hbody).andThen (.loop htail (ih hbody)))
              have honce := (Matches t r).andThen_repeated_orElse_stay (p := fun _ => True) trivial
              rw [honce] at hloop
              simpa [Matches, permits_none, Nat.add_assoc, size] using hloop
          | succ n =>
              simp only [code, codeAt_append, codeAt_cons, List.length_append,
                length_copies (length_code r), length_code] at h
              obtain ⟨⟨hcopies, hbody⟩, htail, -⟩ := h
              rw [← Nat.add_assoc] at htail
              have hfirst := Implements.times (length_code r) hcopies (fun pc => ih)
              have hall := hfirst.andThen ((ih hbody).andThen (.loop htail (ih hbody)))
              rw [← Way.andThen_assoc, ← Way.times_succ, Way.times_andThen_repeated] at hall
              simpa [Matches, permits_none, Nat.add_assoc, size] using hall

/-! ### Programs -/

theorem implements_program (r : Regex) (t : Text) :
    Implements (program r).insts t (Matches t (.group 0 r)) 0 (program r).insts.size := by
  have h : Implements (program r).insts t (Matches t (.group 0 r)) 0 (0 + size (.group 0 r)) :=
    implements_code fun k i hk => by simpa [program] using hk
  rw [← length_code (.group 0 r) 0, Nat.zero_add] at h
  simpa [program] using h

/-- **A program matches a text exactly if its expression does.** -/
theorem isMatch_program_iff {r : Regex} {t : Text} :
    (program r).isMatch t ↔ ∃ i ≤ t.length, ∃ j u, Matches t r i j u := by
  rw [Program.isMatch_iff]
  constructor
  · rintro ⟨i, hi, n, f, hrun, hf⟩
    obtain ⟨j, _, m, hgroup, -⟩ := (implements_program r t).back hrun hf
    obtain ⟨u, hu, -⟩ := Way.group_iff.1 hgroup
    exact ⟨i, hi, j, u, hu⟩
  · rintro ⟨i, hi, j, u, hu⟩
    obtain ⟨n, hrun⟩ := (implements_program r t).run [] (Way.group_iff.2 ⟨u, hu, rfl⟩)
    exact ⟨i, hi, n, _, hrun, by simp [Thread.Final]⟩

/-- **What a program finds is recorded on a match of its expression.** -/
theorem matches_of_find? {r : Regex} {t : Text} {m : Found} (h : (program r).find? t = some m) :
    ∃ i ≤ t.length, ∃ j u, Matches t r i j u ∧ m.slots = (1, j) :: u ++ [(0, i)] := by
  obtain ⟨i, hi, n, f, hrun, hf, hslots⟩ := Program.find?_run h
  obtain ⟨j, _, l, hgroup, -, hrun⟩ := (implements_program r t).back hrun hf
  obtain ⟨u, hu, rfl⟩ := Way.group_iff.1 hgroup
  refine ⟨i, hi, j, u, hu, ?_⟩
  cases hrun with
  | refl => simpa using hslots.symm
  | step head rest =>
      obtain ⟨k, hk, -⟩ := head
      simp at hk

end UrlMatch.Regex
