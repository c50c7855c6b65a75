import Mathlib.Data.List.Chain
import UrlMatch.Proofs.Fields.Slices

/-!
# The iterations of the cursor

A cursor that goes back passes some lexemes once more, so neither its index nor its state alone
tells that it comes to an end. Each iteration gathers one lexeme or leads to a later state. A
lexeme is passed twice at most: only the start and the authority are gone over again, and the
authority begins where the protocol ends. How often a lexeme may still be passed is the cursor's
`allowance` for it, which pays for each time that it is.

## Main results

* `Cursor.Sound.iteration`: what one iteration does.
* `Cursor.Sound.pays_of_move`: an iteration pays for the lexemes that it passes.
* `Cursor.Sound.passes_le`: no lexeme is passed more often than is allowed.
* `splitText_terminates`: every pattern is gone over to its end, unless its protocol is no pattern.
-/

namespace UrlMatch.Fields

open Pattern

namespace Cursor

variable {ls : List Lexeme} {c c' last : Cursor} {cs : List Cursor}

/-- The number of lexemes in front of the cursor. -/
def index (c : Cursor) : Nat := c.before.length + c.gathered.length

/-- Where an iteration steps forward from. One that leaves the start or the authority goes back to
where gathering began. -/
def resumes (c c' : Cursor) : Nat :=
  if c'.state ≠ c.state ∧ c.state.retries ≠ [] then c.before.length else c.index

/-- How often the lexeme at an index is passed, from each cursor to the next. -/
def passes (i : Nat) : List Cursor → Nat
  | c :: c' :: cs => (if c.resumes c' ≤ i ∧ i < c'.index then 1 else 0) + passes i (c' :: cs)
  | _ => 0

/-- One iteration. The last one is made at the end, and writes the component that was gathered. -/
structure Iteration (c c' : Cursor) : Prop where
  next : c.Next c'
  progress : c'.state = c.state ∧ c'.index = c.index + 1 ∨ c.state.rank < c'.state.rank
  finish : c'.state = .done →
    c' = c.enter .done 0 ∧ (∃ n, c.rest = [⟨.finish, n, []⟩]) ∧
      ∃ comp, c.state.component? = some comp ∧ c'.result.get comp = some c.text

/-! ### Single iterations -/

theorem index_gather (c : Cursor) (depth brackets : Nat) (l : Lexeme) (rest : List Lexeme) :
    { c with depth, brackets, gathered := l :: c.gathered, rest }.index = c.index + 1 := rfl

theorem index_enter {next : State} {skip : Nat} (h : skip ≤ c.rest.length) :
    (c.enter next skip).index = c.index + skip := by
  simp only [index, enter, List.length_append, List.length_reverse, List.length_take,
    List.length_nil]
  omega

theorem length_lexemes (c : Cursor) : c.lexemes.length = c.index + c.rest.length := by
  simp [lexemes, pending, index, Nat.add_assoc]

namespace Sound

theorem drop_index (h : Sound ls c) : ls.drop c.index = c.rest := by
  rw [← h.lexemes, Cursor.lexemes, pending, ← List.append_assoc]
  exact List.drop_left' (by simp [index])

theorem index_lt (h : Sound ls c) : c.index < ls.length := by
  have hlength := length_lexemes c
  have hpos : 0 < c.rest.length := List.length_pos_iff.2 h.rest_ne_nil
  rw [h.lexemes] at hlength
  omega

/-- A cursor is done at the end only, when it has written what it gathered. -/
theorem finish_of_move (h : Sound ls c) (hmove : Move c c') (hstate : c.state ≠ .done)
    (hdone : c'.state = .done) :
    c' = c.enter .done 0 ∧ (∃ n, c.rest = [⟨.finish, n, []⟩]) ∧
      ∃ comp, c.state.component? = some comp ∧ c'.result.get comp = some c.text := by
  cases hmove with
  | gather => exact absurd hdone hstate
  | rewind hnext => exact absurd hdone (State.ne_done_of_mem_retries hnext)
  | begin _ hexit => exact absurd hdone (State.ne_done_of_mem_exits hexit)
  | leave _ _ _ hexit => exact absurd hdone (State.ne_done_of_mem_exits hexit)
  | finish hcomponent hrest hfinish =>
      obtain ⟨n, hplaced⟩ := h.placed_rest
      rw [hrest] at hplaced
      obtain ⟨rfl, rfl⟩ := hplaced.eq_finish hfinish
      obtain ⟨comp, hcomp⟩ := Option.isSome_iff_exists.1 hcomponent
      have hfilled := filledIn_enter c .done 0
      rw [writtenValues, hcomp] at hfilled
      exact ⟨rfl, ⟨n, hrest⟩, comp, hcomp,
        (filledIn_result _).get (hfilled.get (Components.get_set_self _ _ _))⟩

/-- **Every step is an iteration.** -/
theorem iteration (h : Sound ls c) (hnext : c.Next c') : Iteration c c' := by
  have hmove := h.move hnext.1 hnext.2
  refine ⟨hnext, ?_, h.finish_of_move hmove hnext.1⟩
  cases hmove with
  | gather => exact .inl ⟨rfl, rfl⟩
  | rewind hretry => exact .inr (State.rank_lt_of_mem_retries hretry)
  | begin hstate hexit =>
      rw [hstate]
      exact .inr (State.rank_lt_of_mem_exits hexit)
  | leave _ _ _ hexit => exact .inr (State.rank_lt_of_mem_exits hexit)
  | finish =>
      exact .inr (Nat.lt_of_le_of_ne c.state.rank_le fun heq =>
        hnext.1 (State.rank_injective heq))

end Sound

/-! ### How often a lexeme is passed -/

/-- The lexemes in front of this index are not passed again. The start and the authority go over
what they have gathered once more. -/
def settled (c : Cursor) : Nat :=
  match c.state with
  | .start | .authority => c.before.length
  | _ => c.index

/-- The lexemes in front of this index are passed once more at most. What a protocol has in front
of it was gone over at the start, up to the colon; the authority begins behind it. -/
def halfway (c : Cursor) : Nat :=
  match c.state with
  | .start | .authority => c.index
  | .protocol => c.lexemes.length - (fromColon c.depth c.rest).length
  | _ => c.lexemes.length

/-- How often the lexeme at an index may still be passed. -/
def allowance (c : Cursor) (i : Nat) : Nat :=
  (if c.settled ≤ i then 1 else 0) + (if c.halfway ≤ i then 1 else 0)

theorem allowance_le_two (c : Cursor) (i : Nat) : c.allowance i ≤ 2 := by
  rw [allowance]
  split_ifs <;> decide

theorem settled_le_index (c : Cursor) : c.settled ≤ c.index := by
  have hbefore : c.before.length ≤ c.index := Nat.le_add_right _ _
  rw [settled]
  split <;> omega

/-- Where nothing is gathered, all is settled that the cursor has passed. -/
theorem settled_eq (h : c.gathered = []) : c.settled = c.index := by
  have hindex : c.index = c.before.length := by simp [index, h]
  rw [settled]
  split <;> omega

theorem index_le_halfway (c : Cursor) : c.index ≤ c.halfway := by
  have hlength := length_lexemes c
  have hcolon := length_fromColon_le c.depth c.rest
  rw [halfway]
  split <;> omega

theorem halfway_le (c : Cursor) : c.halfway ≤ c.lexemes.length := by
  have hlength := length_lexemes c
  rw [halfway]
  split <;> omega

/-- At the colon behind it a protocol has been gone over twice. -/
theorem halfway_at_colon {l : Lexeme} {rest : List Lexeme} (hstate : c.state = .protocol)
    (hdepth : c.depth = 0) (h : c.rest = l :: rest) (hsign : isSign ':' l) :
    c.halfway = c.index := by
  have hlength := length_lexemes c
  simp only [halfway, hstate, hdepth]
  rw [h, fromColon_of_isSign hsign, ← h]
  omega

/-- Behind the authority every lexeme is passed once more at most. -/
theorem halfway_le_of_rank (hlexemes : c'.lexemes = c.lexemes) (h : 2 < c'.state.rank) :
    c.halfway ≤ c'.halfway := by
  have hlate : c'.halfway = c.lexemes.length := by
    rw [halfway]
    split <;> simp_all [State.rank]
  exact hlate ▸ halfway_le c

/-- The lexemes that an iteration passes are settled by it, or else halfway by it; none that was
before is any more to be passed. -/
structure Pays (c c' : Cursor) : Prop where
  settled_le : c.settled ≤ c'.settled
  halfway_le : c.halfway ≤ c'.halfway
  paid : (c.settled ≤ c.resumes c' ∧ c'.index ≤ c'.settled) ∨
    (c.halfway ≤ c.resumes c' ∧ c'.index ≤ c'.halfway)

/-- **An iteration pays for the lexemes that it passes** with what is allowed for them. -/
theorem Pays.passes_add_allowance_le (h : Pays c c') (i : Nat) :
    (if c.resumes c' ≤ i ∧ i < c'.index then 1 else 0) + c'.allowance i ≤ c.allowance i := by
  obtain ⟨hsettled, hhalfway, hpaid⟩ := h
  simp only [allowance]
  split_ifs <;> omega

/-- An iteration does not step forward from what is settled. -/
theorem settled_le_resumes (c c' : Cursor) : c.settled ≤ c.resumes c' := by
  rw [resumes]
  split
  · rename_i h
    cases hs : c.state <;> simp_all [State.retries, settled]
  · exact settled_le_index c

/-- An iteration that leaves nothing gathered settles all that it passes. -/
theorem pays_of_gathered (hgathered : c'.gathered = []) (hindex : c.settled ≤ c'.index)
    (hhalfway : c.halfway ≤ c'.halfway) : Pays c c' :=
  have hsettled := settled_eq hgathered
  ⟨hsettled ▸ hindex, hhalfway, .inl ⟨settled_le_resumes c c', hsettled.ge⟩⟩

namespace Sound

/-- **The moves pay for the lexemes that they pass.** -/
theorem pays_of_move (h : Sound ls c) (hmove : Move c c') : Pays c c' := by
  have hlexemes := hmove.lexemes
  have hlength := length_lexemes c
  cases hmove with
  | @gather l rest brackets hrest hfinish hsign =>
      have hcolon (hs : c.state = .protocol) :
          fromColon (nextDepth c.depth l) rest = fromColon c.depth c.rest := by
        rw [hrest]
        exact (fromColon_cons fun hdepth => hsign hdepth ':' (by simp [hs, State.awaited?])).symm
      have hindex := index_gather c (nextDepth c.depth l) brackets l rest
      constructor <;> simp only [settled, halfway, resumes, hindex, hlexemes] <;> split <;>
        simp_all
  | @rewind next hnext hsign =>
      cases hs : c.state with
      | start =>
          obtain rfl : next = .protocol := by simpa [hs, State.retries] using hnext
          obtain ⟨hdepth, l, hl, hcolon⟩ := hsign ':' rfl
          have hfrom : fromColon c.depth c.pending = c.rest := by
            obtain ⟨rest, hrest⟩ := List.head?_eq_some_iff.1 hl
            rw [hdepth, h.fromColon_eq hs, hdepth, hrest, fromColon_of_isSign hcolon]
          have hafter : (c.rewind .protocol).halfway = c.index := by
            have hhalfway : (c.rewind .protocol).halfway =
                (c.rewind .protocol).lexemes.length - (fromColon c.depth c.pending).length := rfl
            rw [hhalfway, hlexemes, hfrom]
            omega
          have hbefore : c.halfway = c.index := by rw [halfway, hs]
          exact pays_of_gathered rfl (by rw [settled, hs]; rfl) (hbefore.trans hafter.symm).le
      | authority =>
          have hrank := State.rank_lt_of_mem_retries hnext
          rw [hs, State.rank] at hrank
          exact pays_of_gathered rfl (by rw [settled, hs]; rfl) (halfway_le_of_rank hlexemes hrank)
      | _ => simp [hs, State.retries] at hnext
  | @begin next signs skipped behind hs hexit hpending hbehind hsigns =>
      have hrank : 6 < next.rank := by
        have hall : ∀ e ∈ State.start.exits, 6 < e.1.rank := by decide
        exact hall _ hexit
      have hsettled : c.settled = 0 := by rw [settled, hs, h.before_eq_nil hs]; rfl
      exact pays_of_gathered rfl (hsettled ▸ Nat.zero_le _)
        (halfway_le_of_rank hlexemes (Nat.lt_trans (by decide) hrank))
  | @leave next signs skipped behind special hcomponent hdepth hexit hrest hbehind hsigns =>
      have hskip : signs.length ≤ c.rest.length := by
        rw [hrest, ← hsigns.length_eq, List.length_append]
        exact Nat.le_add_right _ _
      have hindex : ({ c with special }.enter next signs.length).index = c.index + signs.length :=
        index_enter (c := { c with special }) hskip
      refine pays_of_gathered rfl ?_ ?_
      · have hle := settled_le_index c
        omega
      · by_cases hs : c.state = .protocol
        · obtain ⟨tail, rfl⟩ : ∃ tail, signs = ':' :: tail := by
            have hall : ∀ e ∈ State.protocol.exits, ∃ tail, e.2 = ':' :: tail := by
              simp [State.exits]
            exact hall _ (hs ▸ hexit)
          obtain ⟨l, skipped, hsign, -, rfl⟩ := List.forall₂_cons_right_iff.1 hsigns
          have hle := index_le_halfway ({ c with special }.enter next (':' :: tail).length)
          rw [halfway_at_colon hs hdepth hrest (hsign.isSign (by decide))]
          omega
        · have hlate : 2 < c.state.rank := by
            cases hstate : c.state <;> simp_all [State.rank, State.component?]
          exact halfway_le_of_rank hlexemes
            (Nat.lt_trans hlate (State.rank_lt_of_mem_exits hexit))
  | finish hcomponent hrest =>
      have hlate : 2 < (State.done).rank := by decide
      refine pays_of_gathered rfl ?_ (halfway_le_of_rank hlexemes hlate)
      rw [index_enter (Nat.zero_le _)]
      exact settled_le_index c

end Sound

/-! ### Whole runs -/

/-- **A step fails only where a protocol is judged** that is no pattern. -/
theorem ofText_of_step {e : Error} (h : c.step = .error e) :
    c.state = .protocol ∧ ComponentPattern.ofText .protocol false false c.text = .error e := by
  have hlook (h : c.look = .error e) :
      c.state = .protocol ∧
        ComponentPattern.ofText .protocol false false c.text = .error e := by
    rw [look] at h
    split at h <;> try cases h
    rename_i hs
    split at h
    · rcases bind_eq_error.1 h with h | ⟨_, _, h⟩
      · exact ⟨hs, bind_pure_eq_error.1 h⟩
      · cases h
    · cases h
  rw [step] at h
  split at h
  · cases h
  · split_ifs at h
    exact hlook h

namespace Sound

/-- A run keeps a cursor sound. -/
theorem along (h : Sound ls c) (hchain : (c :: cs).IsChain Next) :
    ∀ c' ∈ c :: cs, Sound ls c' := by
  induction cs generalizing c with
  | nil => exact List.forall_mem_singleton.2 h
  | cons c₁ cs ih =>
      obtain ⟨hnext, hchain⟩ := List.isChain_cons_cons.1 hchain
      exact List.forall_mem_cons.2 ⟨h, ih (h.of_move (h.move hnext.1 hnext.2)) hchain⟩

/-- **No lexeme is passed more often than is allowed.** -/
theorem passes_le (h : Sound ls c) (hchain : (c :: cs).IsChain Next) (i : Nat) :
    passes i (c :: cs) ≤ c.allowance i := by
  induction cs generalizing c with
  | nil => exact Nat.zero_le _
  | cons c₁ cs ih =>
      obtain ⟨hnext, hchain⟩ := List.isChain_cons_cons.1 hchain
      have hmove := h.move hnext.1 hnext.2
      have hpaid := (h.pays_of_move hmove).passes_add_allowance_le i
      have hle := ih (h.of_move hmove) hchain
      rw [passes]
      omega

/-- **No run is longer than its potential.** -/
theorem length_le_potential (h : Sound ls c) (hchain : (c :: cs).IsChain Next) :
    (c :: cs).length ≤ c.potential := by
  induction cs generalizing c with
  | nil =>
      have hpos : 0 < c.rest.length := List.length_pos_iff.2 h.rest_ne_nil
      exact Nat.le_trans hpos (length_rest_le_potential c)
  | cons c₁ cs ih =>
      obtain ⟨hnext, hchain⟩ := List.isChain_cons_cons.1 hchain
      have hmove := h.move hnext.1 hnext.2
      have hlt := h.potential_lt hmove
      have hle := ih (h.of_move hmove) hchain
      rw [List.length_cons]
      omega

/-- **Every run stops**: it is done, or a step fails. -/
theorem exists_run {fuel : Nat} (h : Sound ls c) (hfuel : c.potential ≤ fuel) :
    ∃ cs last, (c :: cs).IsChain Next ∧ (c :: cs).getLast? = some last ∧
      (last.state = .done ∧ run fuel c = .ok last ∨
        ∃ e, last.step = .error e ∧ run fuel c = .error e) := by
  induction fuel generalizing c with
  | zero =>
      have hle := h.length_le_potential (.singleton c)
      rw [List.length_singleton] at hle
      omega
  | succ fuel ih =>
      by_cases hdone : c.state = .done
      · exact ⟨[], c, .singleton c, rfl, .inl ⟨hdone, if_pos hdone⟩⟩
      · rw [run, if_neg hdone]
        cases hstep : c.step with
        | error e => exact ⟨[], c, .singleton c, rfl, .inr ⟨e, hstep, rfl⟩⟩
        | ok c₁ =>
            have hmove := h.move hdone hstep
            have hlt := h.potential_lt hmove
            obtain ⟨cs, last, hchain, hlast, hstops⟩ := ih (h.of_move hmove) (by omega)
            exact ⟨c₁ :: cs, last, .cons_cons ⟨hdone, hstep⟩ hchain,
              List.getLast?_cons_cons.trans hlast, hstops⟩

end Sound

/-- The cursors of a whole run over the lexemes `ls`, from the first to the one at which it stops.
Each of them makes an iteration, but not the last one, unless it is the one that fails. -/
structure Iterations (ls : List Lexeme) (cs : List Cursor) (last : Cursor) : Prop where
  head_eq : cs.head? = some (initial ls)
  getLast_eq : cs.getLast? = some last
  isChain : cs.IsChain Iteration
  /-- No cursor is behind the end. -/
  index_lt : ∀ c ∈ cs, c.index < ls.length ∧ ls.drop c.index = c.rest
  length_le : cs.length ≤ 2 * ls.length + 10
  passes_le : ∀ i, passes i cs ≤ 2

end Cursor

/-- **Splitting a pattern comes to its end**, unless its protocol is no pattern. Each iteration
gathers one lexeme or leads to a later state, no lexeme is passed more than twice, and the number
of iterations is bounded. The last one is made at the end of the text, where the component that is
gathered is written. -/
theorem splitText_terminates (t : Text) :
    ∃ ls cs last, lex .lenient t = .ok ls ∧ Cursor.Iterations ls cs last ∧
      (last.state = .done ∧ splitText t = .ok last.result ∨
        ∃ e, last.state = .protocol ∧
          ComponentPattern.ofText .protocol false false last.text = .error e ∧
          splitText t = .error e) := by
  obtain ⟨ls, hls⟩ := exists_lexFrom_lenient 0 t
  have hlex : lex .lenient t = .ok ls := hls
  have hsound := Cursor.sound_initial (placed_of_lexFrom hls).1
  have hpotential := Cursor.potential_initial ls
  obtain ⟨cs, last, hchain, hlast, hstops⟩ := hsound.exists_run hpotential.le
  refine ⟨ls, Cursor.initial ls :: cs, last, hlex, ⟨rfl, hlast, ?_, fun c hc => ?_, ?_,
    fun i => ?_⟩, ?_⟩
  · exact hchain.imp_of_mem_imp fun c c' hc _ hnext => (hsound.along hchain c hc).iteration hnext
  · have hc := hsound.along hchain c hc
    exact ⟨hc.index_lt, hc.drop_index⟩
  · exact (hsound.length_le_potential hchain).trans_eq hpotential
  · exact Nat.le_trans (hsound.passes_le hchain i) (Cursor.allowance_le_two _ i)
  · rw [splitText, hlex]
    rcases hstops with ⟨hdone, hrun⟩ | ⟨e, hstep, hrun⟩
    · exact .inl ⟨hdone, by simp only [hrun, ok_bind]; rfl⟩
    · obtain ⟨hstate, hprotocol⟩ := Cursor.ofText_of_step hstep
      exact .inr ⟨e, hstate, hprotocol, by simp only [hrun]; rfl⟩

end UrlMatch.Fields
