import UrlMatch.Proofs.Regex.Matches

/-!
# Preferred matches

Of all matches at a position the search reports the one that comes first in the order of the
program's forks. A state *finds* another one if it leads there whenever each choice falls on the
first state that does not fail. That the search leaves out what it has tried does no harm: a state
that has been tried fails, or is passed on the way, and no state is passed twice on a way to the
first match.

An expression *prefers* a way if, at its place in a program, going this way is the first choice as
soon as what is behind the expression goes on from there.

## Main results

* `explore_of_finds`: **the search is stable** — it ends at the state that is found.
* `Program.find?_of_prefers`: the match of a program is the way that its expression prefers.
* `Prefers.seq`, `Prefers.group`, `Prefers.star`, `Prefers.optional`: the ways that composed
  expressions prefer.
-/

namespace UrlMatch.Regex

variable {insts : Array Inst} {input : Array Char} {s t u f g : Thread} {m n : Nat}

/-! ### The first match -/

/-- No run leads from the state to one behind the last instruction. -/
def Fails (insts : Array Inst) (input : Array Char) (t : Thread) : Prop :=
  ∀ n f, Run insts input n t f → ¬f.Final insts

/-- The state leads to the other one, behind the last instruction, when each choice falls on the
first state that does not fail. -/
inductive Finds (insts : Array Inst) (input : Array Char) : Nat → Thread → Thread → Prop
  | final {t : Thread} : t.Final insts → Finds insts input 0 t t
  | step {n : Nat} {t u f : Thread} {i : Inst} {before after : List Thread} :
      insts[t.pc]? = some i → t.next input i = before ++ u :: after →
      (∀ s ∈ before, Fails insts input s) → Finds insts input n u f →
      Finds insts input (n + 1) t f

/-- A run does not depend on the slots recorded so far. -/
theorem Run.congr (h : Run insts input n t f) (hpc : s.pc = t.pc) (hpos : s.pos = t.pos) :
    ∃ g, Run insts input n s g ∧ g.pc = f.pc := by
  induction h generalizing s with
  | refl t => exact ⟨s, .refl s, hpc⟩
  | step head rest ih =>
      obtain ⟨i, hi, hu⟩ := head
      obtain ⟨v, hv, hvpc, hvpos⟩ := Thread.exists_mem_next hu hpc hpos
      obtain ⟨g, hrun, hg⟩ := ih hvpc hvpos
      exact ⟨g, .step ⟨i, hpc ▸ hi, hv⟩ hrun, hg⟩

theorem Fails.congr (h : Fails insts input t) (hpc : s.pc = t.pc) (hpos : s.pos = t.pos) :
    Fails insts input s := by
  intro n f hrun hf
  obtain ⟨g, hrun, hg⟩ := hrun.congr hpc.symm hpos.symm
  refine h n g hrun ?_
  rwa [Thread.Final, hg]

/-- What follows from a state that fails fails too. -/
theorem Fails.next (h : Fails insts input t) (hu : t.Steps insts input u) :
    Fails insts input u := fun n f hrun => h (n + 1) f (.step hu hrun)

/-- A state that fails has an instruction. -/
theorem Fails.exists_inst (h : Fails insts input t) : ∃ i, insts[t.pc]? = some i :=
  Option.ne_none_iff_exists'.1 (h 0 t (.refl t))

namespace Finds

/-- What is found is reached. -/
theorem run (h : Finds insts input n t f) : Run insts input n t f ∧ f.Final insts := by
  induction h with
  | final hf => exact ⟨.refl _, hf⟩
  | step hi hnext _ _ ih =>
      exact ⟨.step ⟨_, hi, hnext ▸ List.mem_append_right _ List.mem_cons_self⟩ ih.1, ih.2⟩

theorem not_fails (h : Finds insts input n t f) : ¬Fails insts input t :=
  fun hfails => hfails n f h.run.1 h.run.2

/-- The states that follow do not depend on the slots recorded so far. -/
theorem map_next (input : Array Char) (hpc : s.pc = t.pc) (hpos : s.pos = t.pos) (i : Inst) :
    (s.next input i).map (fun u => (u.pc, u.pos)) =
      (t.next input i).map (fun u => (u.pc, u.pos)) := by
  cases i with
  | char c =>
      simp only [Thread.next, hpc, hpos]
      split
      · split <;> rfl
      · rfl
  | look l =>
      simp only [Thread.next, hpc, hpos]
      split <;> split <;> simp
  | save slot => simp [Thread.next, hpc, hpos]
  | jump target => simp [Thread.next, hpos]
  | fork first second => simp [Thread.next, hpos]

/-- A list has only one first element that a property does not hold of. -/
theorem eq_of_append_cons_eq {α : Type} {p : α → Prop} {a b : α} {as as' bs bs' : List α}
    (h : as ++ a :: as' = bs ++ b :: bs') (has : ∀ x ∈ as, p x) (ha : ¬p a)
    (hbs : ∀ x ∈ bs, p x) (hb : ¬p b) : a = b := by
  induction as generalizing bs with
  | nil =>
      cases bs with
      | nil => exact (List.cons.inj h).1
      | cons x bs => exact absurd ((List.cons.inj h).1 ▸ hbs x List.mem_cons_self) ha
  | cons x as ih =>
      rw [List.forall_mem_cons] at has
      cases bs with
      | nil => exact absurd ((List.cons.inj h).1 ▸ has.1) hb
      | cons y bs =>
          exact ih (List.cons.inj h).2 has.2 fun z hz => hbs z (List.mem_cons_of_mem _ hz)

/-- **The way to the first match has one length**, whatever has been recorded before. -/
theorem length_unique (h : Finds insts input n t f) (h' : Finds insts input m s g)
    (hpc : s.pc = t.pc) (hpos : s.pos = t.pos) : m = n := by
  induction h generalizing m s g with
  | final hf =>
      cases h' with
      | final => rfl
      | step hi => simp [Thread.Final, ← hpc, hi] at hf
  | @step n t u f i before after hi hnext hbefore hfinds ih =>
      cases h' with
      | final hf => simp [Thread.Final, hpc, hi] at hf
      | @step m _ v _ j before' after' hj hnext' hbefore' hfinds' =>
          obtain rfl : i = j := Option.some.inj (hi.symm.trans (hpc ▸ hj))
          have hmap := map_next input hpc hpos i
          rw [hnext, hnext', List.map_append, List.map_append, List.map_cons, List.map_cons] at hmap
          have hfails {ts : List Thread} (hts : ∀ s ∈ ts, Fails insts input s) :
              ∀ x ∈ ts.map (fun u => (u.pc, u.pos)), Fails insts input ⟨x.1, x.2, []⟩ := by
            intro x hx
            obtain ⟨s, hs, rfl⟩ := List.mem_map.1 hx
            exact (hts s hs).congr rfl rfl
          have hsucceeds {n : Nat} {u f : Thread} (h : Finds insts input n u f) :
              ¬Fails insts input ⟨u.pc, u.pos, []⟩ := fun hu => h.not_fails (hu.congr rfl rfl)
          have hsame := eq_of_append_cons_eq hmap (hfails hbefore') (hsucceeds hfinds')
            (hfails hbefore) (hsucceeds hfinds)
          obtain ⟨hvpc, hvpos⟩ := Prod.mk.inj hsame
          rw [ih hfinds' hvpc hvpos]

end Finds

/-! ### The search -/

/-- What has been tried once a state is tried too, of which there is less left then. -/
theorem tried_add {tried : Tried} {i : Inst} (hsize : tried.masks.size = input.size + 1)
    (hi : insts[t.pc]? = some i) (hpos : t.pos ≤ input.size)
    (ht : tried.has t.pc t.pos = false) :
    (∀ s : Thread, (tried.add t.pc t.pos).has s.pc s.pos →
      tried.has s.pc s.pos ∨ s.pc = t.pc ∧ s.pos = t.pos) ∧
      (untried insts input (tried.add t.pc t.pos)).card < (untried insts input tried).card := by
  refine ⟨fun s hs => ?_, card_untried_add hsize (Array.getElem?_eq_some_iff.1 hi).1 hpos ht⟩
  rw [tried.has_add (by omega)] at hs
  simpa using hs

/-- **The search ends at the state that is found**, behind states that fail. What has been tried
fails, or is further away from its own match. -/
theorem explore_of_finds {fuel : Nat} {tried : Tried} {front stack : List Thread}
    (hfinds : Finds insts input n t f) (hfront : ∀ s ∈ front, Fails insts input s)
    (htried : ∀ s : Thread, tried.has s.pc s.pos →
      Fails insts input s ∨
        ∃ m r g, n < m ∧ Finds insts input m r g ∧ r.pc = s.pc ∧ r.pos = s.pos)
    (hsize : tried.masks.size = input.size + 1) (hpos : ∀ s ∈ front, s.pos ≤ input.size)
    (htpos : t.pos ≤ input.size)
    (hfuel : (front ++ t :: stack).length + 2 * (untried insts input tried).card < fuel) :
    (explore insts input fuel tried (front ++ t :: stack)).1 = some f := by
  induction fuel generalizing n t tried front stack with
  | zero => omega
  | succ fuel ih =>
      cases front with
      | cons s front =>
          rw [List.forall_mem_cons] at hfront hpos
          rw [List.cons_append, List.length_cons] at hfuel
          rw [List.cons_append, explore]
          by_cases hs : tried.has s.pc s.pos
          · rw [if_pos hs]
            exact ih hfinds hfront.2 htried hsize hpos.2 htpos (by omega)
          · obtain ⟨i, hi⟩ := hfront.1.exists_inst
            have hnew := tried_add hsize hi hpos.1 (by simpa using hs)
            rw [if_neg hs, hi]
            dsimp only
            rw [← List.append_assoc]
            refine ih hfinds ?_ ?_ (by simpa using hsize) ?_ htpos ?_
            · intro u hu
              exact (List.mem_append.1 hu).elim (fun hu => hfront.1.next ⟨i, hi, hu⟩) (hfront.2 u)
            · intro u hu
              rcases hnew.1 u hu with hu | ⟨hpc, hpos⟩
              · exact htried u hu
              · exact .inl (hfront.1.congr hpc hpos)
            · intro u hu
              exact (List.mem_append.1 hu).elim (Thread.pos_le_of_mem_next · hpos.1) (hpos.2 u)
            · have hlength : (s.next input i).length ≤ 2 := s.length_next_le i
              simp only [List.length_append] at hfuel ⊢
              omega
      | nil =>
          have hfresh : tried.has t.pc t.pos = false := by
            refine Bool.eq_false_iff.2 fun ht => ?_
            rcases htried t ht with hfails | ⟨m, r, g, hlt, hg, hpc, hpos⟩
            · exact hfinds.not_fails hfails
            · exact absurd (hfinds.length_unique hg hpc hpos) (Nat.ne_of_gt hlt)
          rw [List.nil_append, explore, if_neg (by simp [hfresh])]
          cases hfinds with
          | final hf => rw [show insts[f.pc]? = none from hf]
          | @step n _ u _ i before after hi hnext hbefore hu =>
              have hnew := tried_add hsize hi htpos hfresh
              have hnextpos : ∀ s ∈ before ++ u :: after, s.pos ≤ input.size :=
                fun s hs => Thread.pos_le_of_mem_next (hnext ▸ hs) htpos
              rw [hi]
              dsimp only
              rw [hnext, List.append_assoc, List.cons_append]
              refine ih hu hbefore (fun s hs => ?_) (by simpa using hsize)
                (fun s hs => hnextpos s (List.mem_append_left _ hs))
                (hnextpos u (List.mem_append_right _ List.mem_cons_self)) ?_
              · rcases hnew.1 s hs with hs | ⟨hpc, hpos⟩
                · refine (htried s hs).imp_right ?_
                  rintro ⟨m, r, g, hlt, hg⟩
                  exact ⟨m, r, g, by omega, hg⟩
                · exact .inr ⟨n + 1, t, f, by omega, .step hi hnext hbefore hu, hpc.symm, hpos.symm⟩
              · have hlength : (t.next input i).length ≤ 2 := t.length_next_le i
                rw [hnext] at hlength
                simp only [List.nil_append, List.length_append, List.length_cons] at hfuel hlength ⊢
                omega

theorem findFrom_of_explore {tried : Tried} {start : Nat}
    (h : (explore insts input (fuelFor insts input) tried [⟨0, start, []⟩]).1 = some f)
    (remaining : Nat) : findFrom insts input tried start remaining = some f := by
  cases hx : explore insts input (fuelFor insts input) tried [⟨0, start, []⟩] with
  | mk found tried' =>
      obtain rfl : found = some f := by rwa [hx] at h
      cases remaining <;> simp [findFrom, hx]

/-- **What a program finds is the first match**, if there is one at the first position. -/
theorem Program.find?_of_finds {p : Program} {t : Text}
    (h : Finds p.insts t.toArray n ⟨0, 0, []⟩ f) : p.find? t = some ⟨f.slots⟩ := by
  have hexplore : (explore p.insts t.toArray (fuelFor p.insts t.toArray) (.empty t.toArray.size)
      ([] ++ ⟨0, 0, []⟩ :: [])).1 = some f :=
    explore_of_finds h (by simp) (by simp) (by simp) (by simp) (Nat.zero_le _) (fuel_le _)
  rw [find?, findFrom_of_explore hexplore, Option.map_some]

/-! ### The ways that expressions prefer -/

/-- Where its code stands, the expression goes this way first, as soon as what is behind it goes on
from there. -/
def Prefers (t : Text) (r : Regex) (i j : Nat) (u : Slots) : Prop :=
  ∀ ⦃insts : Array Inst⦄ ⦃pc : Nat⦄ ⦃w : Slots⦄ ⦃n : Nat⦄ ⦃f : Thread⦄,
    CodeAt insts pc (code r pc) → Finds insts t.toArray n ⟨pc + size r, j, u ++ w⟩ f →
      ∃ m, Finds insts t.toArray m ⟨pc, i, w⟩ f

/-- The first choice is taken if it does not fail. -/
theorem Finds.of_head {i : Inst} {after : List Thread} (hi : insts[t.pc]? = some i)
    (hnext : t.next input i = u :: after) (h : Finds insts input n u f) :
    Finds insts input (n + 1) t f :=
  .step hi (show _ = [] ++ u :: after from hnext) (by simp) h

/-- The only choice is taken. -/
theorem Finds.of_only {i : Inst} (hi : insts[t.pc]? = some i) (hnext : t.next input i = [u])
    (h : Finds insts input n u f) : Finds insts input (n + 1) t f := .of_head hi hnext h

/-- The second choice is taken if the first one fails. -/
theorem Finds.of_second {i : Inst} (hi : insts[t.pc]? = some i) (hnext : t.next input i = [s, u])
    (hs : Fails insts input s) (h : Finds insts input n u f) : Finds insts input (n + 1) t f :=
  .step hi (show _ = [s] ++ u :: [] from hnext) (by simpa using hs) h

namespace Prefers

variable {t : Text} {a b r : Regex} {i j k : Nat} {v w : Slots} {c : CharClass} {l : Look}

theorem empty : Prefers t .empty i i [] := by
  intro insts pc w n f _ hbehind
  exact ⟨n, hbehind⟩

theorem look (h : l.HoldsAt t i) : Prefers t (.look l) i i [] := by
  intro insts pc w n f hcode hbehind
  refine ⟨n + 1, .of_only (codeAt_cons.1 hcode).1 ?_ hbehind⟩
  rw [Look.HoldsAt] at h
  simp [Thread.next, size, h]

theorem seq (ha : Prefers t a i k v) (hb : Prefers t b k j w) :
    Prefers t (.seq a b) i j (w ++ v) := by
  intro insts pc u n f hcode hbehind
  rw [code, codeAt_append, length_code] at hcode
  rw [size, ← Nat.add_assoc, List.append_assoc] at hbehind
  obtain ⟨m, hm⟩ := hb hcode.2 hbehind
  exact ha hcode.1 hm

theorem group (h : Prefers t r i j v) (index : Nat) :
    Prefers t (.group index r) i j ((2 * index + 1, j) :: (v ++ [(2 * index, i)])) := by
  intro insts pc u n f hcode hbehind
  rw [code, List.cons_append, codeAt_cons, codeAt_append, length_code] at hcode
  obtain ⟨hfirst, hbody, hlast⟩ := hcode
  have hclosed : Finds insts t.toArray (n + 1)
      ⟨pc + 1 + size r, j, v ++ (2 * index, i) :: u⟩ f := by
    refine .of_head (codeAt_cons.1 hlast).1 rfl ?_
    simpa [size, Nat.add_assoc, Nat.add_comm 1] using hbehind
  obtain ⟨m, hm⟩ := h hbody hclosed
  exact ⟨m + 1, .of_head hfirst rfl hm⟩

/-- At the end of the text no character is passed. -/
theorem fails_char {insts : Array Inst} {pc : Nat} {w : Slots}
    (hi : insts[pc]? = some (.char c)) : Fails insts t.toArray ⟨pc, t.length, w⟩ := by
  intro n f hrun hf
  obtain ⟨_, u, -, hu, -⟩ := hrun.next_of_final hf hi
  obtain ⟨x, hx, -⟩ := Thread.mem_next_char.1 hu
  simp at hx

/-- **A greedy repetition** takes all of the text if it can. -/
theorem star (h : ∀ x ∈ t.drop i, c.holds x.toNat) (hi : i ≤ t.length) :
    Prefers t (.repeated (.one c) 0 none true) i t.length [] := by
  intro insts pc w n f hcode hbehind
  simp only [code, List.cons_append, List.nil_append, codeAt_cons, Inst.again, if_true, size]
    at hcode
  obtain ⟨hfork, hchar, hagain, -⟩ := hcode
  -- the forks in front of the body and behind it choose between the same addresses
  have hloop {pc' : Nat} (hfork : insts[pc']? = some (.fork (pc + 1) (pc + 1 + 2))) :
      ∃ m, Finds insts t.toArray m ⟨pc', i, w⟩ f := by
    induction hk : t.length - i generalizing i pc' with
    | zero =>
        obtain rfl : i = t.length := by omega
        exact ⟨n + 1, .of_second hfork rfl (fails_char hchar) hbehind⟩
    | succ k ih =>
        have hlt : i < t.length := by omega
        rw [List.drop_eq_getElem_cons hlt, List.forall_mem_cons] at h
        obtain ⟨m, hm⟩ := ih h.2 hlt hagain (by omega)
        refine ⟨m + 2, .of_head hfork rfl (.of_only hchar ?_ hm)⟩
        simp [Thread.next, hlt, h.1]
  exact hloop hfork

/-- At the end of the text an optional character is left out. -/
theorem optional : Prefers t (.repeated (.one c) 0 (some 1) true) t.length t.length [] := by
  intro insts pc w n f hcode hbehind
  have hcode : CodeAt insts pc [.fork (pc + 1) (pc + 2), .char c] := by
    simpa [code, copies, Inst.again, size] using hcode
  rw [codeAt_cons, codeAt_cons] at hcode
  obtain ⟨hfork, hchar, -⟩ := hcode
  have hexit : pc + size (.repeated (.one c) 0 (some 1) true) = pc + 2 := by simp [size]
  rw [hexit] at hbehind
  exact ⟨n + 1, .of_second hfork rfl (fails_char hchar) hbehind⟩

end Prefers

/-- **The match of a program** is the way that its expression prefers from the first position. -/
theorem Program.find?_of_prefers {t : Text} {r : Regex} {j : Nat} {u : Slots}
    (h : Prefers t r 0 j u) : (program r).find? t = some ⟨(1, j) :: (u ++ [(0, 0)])⟩ := by
  have hcode : CodeAt (program r).insts 0 (code (.group 0 r) 0) :=
    fun k i hk => by simpa [program] using hk
  have hfinal : (program r).insts[0 + size (.group 0 r)]? = none := by
    simp [program, length_code]
  obtain ⟨m, hm⟩ := h.group 0 (w := []) hcode (.final hfinal)
  simpa using find?_of_finds hm

end UrlMatch.Regex
