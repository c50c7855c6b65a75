import Mathlib.Logic.Relation
import UrlMatch.Proofs.Fields.Moves

/-!
# Runs of the cursor

A cursor over the lexemes of a text is `Sound`: what it has passed, what it has gathered and what
is ahead of it are these lexemes. Every step lowers its `potential`, a number that bounds the steps
that are left, so a run always reaches the end: the fuel of `Cursor.fuelFor` is never used up.

The potential has to know how far a protocol goes before it is read. That is known at the start:
a protocol is looked for only when the colon behind it was seen, so it ends at `fromColon`.

## Main results

* `Cursor.Sound.step`: steps keep a cursor sound.
* `Cursor.Sound.potential_lt`: steps lower the potential.
* `Cursor.Sound.done_of_run`: a run with enough fuel is done.
* `Cursor.Sound.run_of_goes`: what single steps lead to is what the run gives.
-/

namespace UrlMatch.Fields

open Pattern

/-- The lexemes from the first colon outside of braces on, when `depth` braces are open. -/
def fromColon : Nat → List Lexeme → List Lexeme
  | _, [] => []
  | depth, l :: ls =>
    if depth = 0 ∧ Cursor.isSign ':' l then l :: ls else fromColon (nextDepth depth l) ls

theorem fromColon_of_isSign {l : Lexeme} {ls : List Lexeme} (h : Cursor.isSign ':' l) :
    fromColon 0 (l :: ls) = l :: ls := if_pos ⟨rfl, h⟩

/-- A lexeme that is passed over does not change what is found. -/
theorem fromColon_cons {depth : Nat} {l : Lexeme} {ls : List Lexeme}
    (h : depth = 0 → Cursor.isSign ':' l = false) :
    fromColon depth (l :: ls) = fromColon (nextDepth depth l) ls :=
  if_neg fun hc => Bool.eq_false_iff.1 (h hc.1) hc.2

theorem length_fromColon_le (depth : Nat) (ls : List Lexeme) :
    (fromColon depth ls).length ≤ ls.length := by
  induction ls generalizing depth with
  | nil => exact Nat.le_refl 0
  | cons l ls ih =>
      rw [fromColon]
      split
      · exact Nat.le_refl _
      · exact Nat.le_succ_of_le (ih _)

theorem State.ne_start_of_rank_lt {s next : State} (h : s.rank < next.rank) : next ≠ .start := by
  rintro rfl
  exact Nat.not_lt_zero _ h

namespace Cursor

/-- A cursor over the lexemes `ls`. At the start nothing is passed, and no colon either. -/
structure Sound (ls : List Lexeme) (c : Cursor) : Prop where
  placed : Placed 0 ls
  lexemes : c.lexemes = ls
  rest_ne_nil : c.rest ≠ []
  before_eq_nil : c.state = .start → c.before = []
  fromColon_eq : c.state = .start → fromColon 0 c.pending = fromColon c.depth c.rest

/-- A bound on the steps that are left. -/
def potential (c : Cursor) : Nat :=
  match c.state with
  | .start => 10 + c.gathered.length + 2 * c.rest.length
  | .protocol => 9 + c.rest.length + (fromColon c.depth c.rest).length
  | .authority => 8 + c.gathered.length + 2 * c.rest.length
  | s => 10 - s.rank + c.rest.length

variable {ls rest : List Lexeme} {l : Lexeme} {c c' : Cursor}

theorem sound_initial (h : Placed 0 ls) : Sound ls (initial ls) where
  placed := h
  lexemes := rfl
  rest_ne_nil := h.ne_nil
  before_eq_nil _ := rfl
  fromColon_eq _ := rfl

theorem potential_initial (ls : List Lexeme) : (initial ls).potential = fuelFor ls.length := by
  simp only [potential, initial, fuelFor, List.length_nil]
  omega

theorem potential_start (hstate : c.state = .start) :
    c.potential = 10 + c.gathered.length + 2 * c.rest.length := by
  rw [potential, hstate]

theorem potential_authority (hstate : c.state = .authority) :
    c.potential = 8 + c.gathered.length + 2 * c.rest.length := by
  rw [potential, hstate]

/-- A cursor with something ahead has a step left. -/
theorem length_rest_le_potential (c : Cursor) : c.rest.length ≤ c.potential := by
  rw [potential]
  split <;> omega

/-- Going to the end from the state of a component is a step. -/
theorem length_rest_lt_potential (c : Cursor) (h : c.state.component?.isSome) :
    c.rest.length < c.potential := by
  have hrank : c.state.rank < 10 := by
    cases hs : c.state <;> simp_all [State.rank, State.component?]
  rw [potential]
  split <;> omega

/-- Behind the authority each lexeme ahead counts once. -/
theorem potential_eq (c : Cursor) (h : 2 < c.state.rank) :
    c.potential = 10 - c.state.rank + c.rest.length := by
  rw [potential]
  split <;> simp_all [State.rank]

/-- Behind the start a lexeme counts at most twice, as long as none is gathered. -/
theorem potential_le (c : Cursor) (h : 0 < c.state.rank) (hgathered : c.gathered = []) :
    c.potential ≤ 10 - c.state.rank + 2 * c.rest.length := by
  have hcolon := length_fromColon_le c.depth c.rest
  rw [potential]
  split <;> simp_all [State.rank] <;> omega

/-- At the colon behind it, the potential of a protocol counts each lexeme ahead twice. -/
theorem potential_at_colon (hstate : c.state = .protocol) (hdepth : c.depth = 0)
    (h : c.rest = l :: rest) (hsign : isSign ':' l) :
    c.potential = 9 + 2 * c.rest.length := by
  simp only [potential, hstate, hdepth, h, fromColon_of_isSign hsign]
  omega

/-- What is ahead behind the signs that are skipped. -/
theorem rest_enter {next : State} {signs : Text} {skipped behind : List Lexeme}
    (h : c.rest = skipped ++ behind) (hsigns : List.Forall₂ IsSeparator skipped signs) :
    (c.enter next signs.length).rest = behind := by
  rw [enter, h, ← hsigns.length_eq, List.drop_left]

namespace Sound

/-- The lexemes ahead are placed. -/
theorem placed_pending (h : Sound ls c) : ∃ n, Placed n c.pending :=
  ⟨_, (h.lexemes ▸ h.placed).append
    (List.append_ne_nil_of_right_ne_nil c.gathered.reverse h.rest_ne_nil)⟩

theorem placed_rest (h : Sound ls c) : ∃ n, Placed n c.rest :=
  let ⟨_, hplaced⟩ := h.placed_pending
  ⟨_, hplaced.append h.rest_ne_nil⟩

/-- The steps of a sound cursor are moves. -/
theorem move (h : Sound ls c) (hdone : c.state ≠ .done) (hstep : c.step = .ok c') : Move c c' := by
  obtain ⟨_, hpending⟩ := h.placed_pending
  obtain ⟨_, hrest⟩ := h.placed_rest
  exact move_of_step hrest hpending hdone hstep

/-- **Moves keep a cursor sound.** -/
theorem of_move (h : Sound ls c) (hmove : Move c c') : Sound ls c' := by
  have hlexemes := hmove.lexemes.trans h.lexemes
  cases hmove with
  | @gather l rest brackets hrest hfinish hsign =>
      obtain ⟨_, hplaced⟩ := h.placed_rest
      rw [hrest] at hplaced
      refine ⟨h.placed, hlexemes, hplaced.rest_ne_nil hfinish, h.before_eq_nil,
        fun (hs : c.state = .start) => ?_⟩
      have hpending : ({ c with
          depth := nextDepth c.depth l, brackets, gathered := l :: c.gathered, rest } :
            Cursor).pending = c.pending := by
        simp [pending, hrest]
      rw [hpending, h.fromColon_eq hs, hrest]
      exact fromColon_cons fun hdepth => hsign hdepth ':' (by simp [hs, State.awaited?])
  | rewind hnext =>
      have hstart := State.ne_start_of_rank_lt (State.rank_lt_of_mem_retries hnext)
      exact ⟨h.placed, hlexemes,
        List.append_ne_nil_of_right_ne_nil c.gathered.reverse h.rest_ne_nil,
        fun hs => absurd hs hstart, fun hs => absurd hs hstart⟩
  | @begin next signs skipped behind _ hexit hpending hbehind hsigns =>
      have hstart := State.ne_start_of_rank_lt (State.rank_lt_of_mem_exits hexit)
      refine ⟨h.placed, hlexemes, ?_, fun hs => absurd hs hstart, fun hs => absurd hs hstart⟩
      exact (rest_enter (c := c.rewind .start) hpending hsigns).symm ▸ hbehind
  | @leave next signs skipped behind special _ _ hexit hrest hbehind hsigns =>
      have hstart := State.ne_start_of_rank_lt (State.rank_lt_of_mem_exits hexit)
      refine ⟨h.placed, hlexemes, ?_, fun hs => absurd hs hstart, fun hs => absurd hs hstart⟩
      exact (rest_enter (c := { c with special }) hrest hsigns).symm ▸ hbehind
  | finish _ hrest =>
      have hstart : State.done ≠ .start := by decide
      exact ⟨h.placed, hlexemes, h.rest_ne_nil, fun hs => absurd hs hstart,
        fun hs => absurd hs hstart⟩

/-- **Moves lower the potential.** -/
theorem potential_lt (h : Sound ls c) (hmove : Move c c') : c'.potential < c.potential := by
  cases hmove with
  | @gather l rest brackets hrest hfinish hsign =>
      have hcolon (hs : c.state = .protocol) :
          fromColon (nextDepth c.depth l) rest = fromColon c.depth c.rest := by
        rw [hrest]
        exact (fromColon_cons fun hdepth => hsign hdepth ':' (by simp [hs, State.awaited?])).symm
      simp only [potential]
      split <;> simp_all <;> omega
  | @rewind next hnext hsign =>
      have hlength : c.pending.length = c.gathered.length + c.rest.length := by simp [pending]
      cases hs : c.state with
      | start =>
          obtain rfl : next = .protocol := by simpa [hs, State.retries] using hnext
          obtain ⟨hdepth, l, hl, hcolon⟩ := hsign ':' rfl
          have hfrom : (fromColon c.depth c.pending).length = c.rest.length := by
            obtain ⟨rest, hrest⟩ := List.head?_eq_some_iff.1 hl
            rw [hdepth, h.fromColon_eq hs, hdepth, hrest, fromColon_of_isSign hcolon]
          have hafter : (c.rewind .protocol).potential =
              9 + c.pending.length + (fromColon c.depth c.pending).length := rfl
          rw [hafter, potential_start hs]
          omega
      | authority =>
          have hrank := State.rank_lt_of_mem_retries hnext
          rw [hs, State.rank] at hrank
          have hafter : (c.rewind next).potential = 10 - next.rank + c.pending.length :=
            potential_eq _ hrank
          rw [hafter, potential_authority hs]
          omega
      | _ => simp [hs, State.retries] at hnext
  | @begin next signs skipped behind hs hexit hpending hbehind hsigns =>
      have hrank : 6 < next.rank := by
        have hall : ∀ e ∈ State.start.exits, 6 < e.1.rank := by decide
        exact hall _ hexit
      have hlength : skipped.length + behind.length = c.gathered.length + c.rest.length := by
        rw [← List.length_append, ← hpending, pending, List.length_append, List.length_reverse]
      have hrest : ((c.rewind .start).enter next signs.length).rest = behind :=
        rest_enter hpending hsigns
      have hafter : ((c.rewind .start).enter next signs.length).potential =
          10 - next.rank + behind.length := hrest ▸ potential_eq _ (Nat.lt_trans (by decide) hrank)
      rw [hafter, potential_start hs]
      omega
  | @leave next signs skipped behind special hcomponent hdepth hexit hrest hbehind hsigns =>
      have hrank := State.rank_lt_of_mem_exits hexit
      have hbehind' : ({ c with special }.enter next signs.length).rest = behind :=
        rest_enter hrest hsigns
      have hlength : c.rest.length = skipped.length + behind.length := by
        rw [hrest, List.length_append]
      by_cases hs : c.state = .protocol
      · obtain ⟨tail, rfl⟩ : ∃ tail, signs = ':' :: tail := by
          have hall : ∀ e ∈ State.protocol.exits, ∃ tail, e.2 = ':' :: tail := by
            simp [State.exits]
          exact hall _ (hs ▸ hexit)
        obtain ⟨l, skipped, hsign, -, rfl⟩ := List.forall₂_cons_right_iff.1 hsigns
        have hbefore := potential_at_colon hs hdepth hrest (hsign.isSign (by decide))
        have hafter : ({ c with special }.enter next (':' :: tail).length).potential ≤
            10 - next.rank + 2 * behind.length :=
          hbehind' ▸ potential_le _ (Nat.zero_lt_of_lt hrank) rfl
        rw [hs, State.rank] at hrank
        rw [List.length_cons] at hlength
        omega
      · have hlate : 2 < c.state.rank := by
          cases hstate : c.state <;> simp_all [State.rank, State.component?]
        have hbefore := potential_eq c hlate
        have hafter : ({ c with special }.enter next signs.length).potential =
            10 - next.rank + behind.length := hbehind' ▸ potential_eq _ (Nat.lt_trans hlate hrank)
        have hbound : next.rank ≤ 10 := next.rank_le
        omega
  | finish hcomponent hrest =>
      have hafter : (c.enter .done 0).potential = c.rest.length := Nat.zero_add _
      exact hafter ▸ length_rest_lt_potential c hcomponent

/-- **A run with enough fuel is done.** -/
theorem done_of_run {fuel : Nat} (h : Sound ls c) (hfuel : c.potential ≤ fuel)
    (hrun : run fuel c = .ok c') : c'.state = .done := by
  induction fuel generalizing c with
  | zero =>
      have hpos : 0 < c.rest.length := List.length_pos_iff.2 h.rest_ne_nil
      have hle := length_rest_le_potential c
      omega
  | succ fuel ih =>
      rw [run] at hrun
      split at hrun
      · rename_i hdone
        cases hrun
        exact hdone
      · rename_i hdone
        obtain ⟨c₁, hstep, hrun⟩ := bind_eq_ok.1 hrun
        have hmove := h.move hdone hstep
        exact ih (h.of_move hmove) (by have := h.potential_lt hmove; omega) hrun

end Sound

/-! ### From one cursor to a later one -/

/-- A step that a run makes. -/
def Next (c c' : Cursor) : Prop := c.state ≠ .done ∧ c.step = .ok c'

/-- A run goes from one cursor to the other. -/
def Goes : Cursor → Cursor → Prop := Relation.ReflTransGen Next

/-- **A run that goes to the end ends there.** -/
theorem Sound.run_of_goes {fuel : Nat} (h : Sound ls c) (hgoes : Goes c c')
    (hdone : c'.state = .done) (hfuel : c.potential ≤ fuel) : run fuel c = .ok c' := by
  induction hgoes using Relation.ReflTransGen.head_induction_on generalizing fuel with
  | refl =>
      cases fuel with
      | zero => rfl
      | succ fuel => exact if_pos hdone
  | head hnext _ ih =>
      obtain ⟨hstate, hstep⟩ := hnext
      have hmove := h.move hstate hstep
      have hlt := h.potential_lt hmove
      cases fuel with
      | zero => omega
      | succ fuel =>
          rw [run, if_neg hstate, hstep, ok_bind]
          exact ih (h.of_move hmove) (by omega)

end Cursor

end UrlMatch.Fields
