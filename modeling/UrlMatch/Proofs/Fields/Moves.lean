import Mathlib.Data.List.Forall2
import UrlMatch.Fields.Split
import UrlMatch.Proofs.Pattern.Positions

/-!
# What a step of the cursor does

A step gathers one lexeme, goes back to where gathering began, or leaves the state at the signs
that separate two components. `Cursor.Move` lists these moves with all that holds when they are
made; what is said about whole runs is proved from it.

## Main results

* `Cursor.move_of_step`: every step is one of the moves.
* `Cursor.Move.lexemes`: no move loses a lexeme, repeats one, or changes their order.
-/

namespace UrlMatch.Fields

open Pattern

namespace State

/-- The states that a state is left for, each with the signs between the two. A text without a
protocol leaves the start for the first part that it has. -/
def exits : State → List (State × Text)
  | start => [(hash, ['#']), (search, ['?']), (pathname, [])]
  | protocol => [(authority, [':', '/', '/']), (authority, [':']), (pathname, [':'])]
  | username => [(password, [':']), (hostname, ['@'])]
  | password => [(hostname, ['@'])]
  | hostname => [(port, [':']), (pathname, []), (search, ['?']), (hash, ['#'])]
  | port => [(pathname, []), (search, ['?']), (hash, ['#'])]
  | pathname => [(search, ['?']), (hash, ['#'])]
  | search => [(hash, ['#'])]
  | authority | hash | done => []

/-- The states in which the cursor goes over the same lexemes again. -/
def retries : State → List State
  | start => [protocol]
  | authority => [username, hostname]
  | _ => []

/-- The sign behind what is gathered: a protocol ends at a colon, a user name and a password at an
at sign. -/
def awaited? : State → Option Char
  | start | protocol => some ':'
  | authority | username | password => some '@'
  | _ => none

theorem rank_lt_of_mem_exits {s next : State} {signs : Text} (h : (next, signs) ∈ s.exits) :
    s.rank < next.rank := by
  have hall : ∀ e ∈ s.exits, s.rank < e.1.rank := by cases s <;> decide
  exact hall _ h

theorem rank_lt_of_mem_retries {s next : State} (h : next ∈ s.retries) : s.rank < next.rank := by
  have hall : ∀ e ∈ s.retries, s.rank < e.rank := by cases s <;> decide
  exact hall _ h

/-- No state is behind the last one. -/
theorem rank_le (s : State) : s.rank ≤ done.rank := by cases s <;> decide

theorem rank_injective {s s' : State} (h : s.rank = s'.rank) : s = s' := by
  cases s <;> cases s' <;> first | rfl | cases h

/-- A component is gathered in one state only. -/
theorem eq_of_component? {s s' : State} {comp : Component} (h : s.component? = some comp)
    (h' : s'.component? = some comp) : s = s' := by
  cases s <;> cases h <;> cases s' <;> cases h' <;> rfl

end State

/-- The lexeme separates two components. A question mark does however it was read, as long as it
modifies nothing. -/
def IsSeparator (l : Lexeme) (ch : Char) : Prop :=
  Cursor.isSign ch l ∨ (ch = '?' ∧ l.value = ['?'])

namespace IsSeparator

variable {l : Lexeme} {ch : Char}

theorem value_eq (h : IsSeparator l ch) : l.value = [ch] := by
  rcases h with h | ⟨rfl, h⟩
  · simp only [Cursor.isSign, Bool.and_eq_true, beq_iff_eq] at h
    exact h.1
  · exact h

/-- Only the question mark may be a sign of another kind. -/
theorem isSign (h : IsSeparator l ch) (hch : ch ≠ '?') : Cursor.isSign ch l :=
  h.resolve_right fun h => hch h.1

end IsSeparator

/-- The number of open braces behind a lexeme. -/
def nextDepth (depth : Nat) (l : Lexeme) : Nat :=
  if l.kind = .opening then depth + 1 else if l.kind = .closing then depth - 1 else depth

namespace Cursor

variable {c c' : Cursor} {l : Lexeme} {rest : List Lexeme} {n : Nat}

/-- The lexemes that are gathered or still to be looked at. -/
def pending (c : Cursor) : List Lexeme := c.gathered.reverse ++ c.rest

/-- All lexemes, in their order. -/
def lexemes (c : Cursor) : List Lexeme := c.before.reverse ++ c.pending

/-- The moves of a cursor. -/
inductive Move (c : Cursor) : Cursor → Prop
  /-- Gathers a lexeme. Outside of braces the sign that is awaited is not gathered. -/
  | gather {l : Lexeme} {rest : List Lexeme} (brackets : Nat) :
      c.rest = l :: rest → l.kind ≠ .finish →
      (c.depth = 0 → ∀ ch ∈ c.state.awaited?, isSign ch l = false) →
      Move c { c with depth := nextDepth c.depth l, brackets, gathered := l :: c.gathered, rest }
  /-- Goes back to where gathering began, when the sign is seen that will be awaited. -/
  | rewind {next : State} :
      next ∈ c.state.retries →
      (∀ ch ∈ next.awaited?, c.depth = 0 ∧ ∃ l ∈ c.rest.head?, isSign ch l) →
      Move c (c.rewind next)
  /-- Goes back to the start at the end of a text without a protocol, and leaves it. -/
  | begin {next : State} {signs : Text} {skipped behind : List Lexeme} :
      c.state = .start → (next, signs) ∈ State.start.exits →
      c.pending = skipped ++ behind → behind ≠ [] →
      List.Forall₂ IsSeparator skipped signs →
      Move c ((c.rewind .start).enter next signs.length)
  /-- Leaves the state of a component for another one. -/
  | leave {next : State} {signs : Text} {skipped behind : List Lexeme} (special : Bool) :
      c.state.component?.isSome → c.depth = 0 → (next, signs) ∈ c.state.exits →
      c.rest = skipped ++ behind → behind ≠ [] → List.Forall₂ IsSeparator skipped signs →
      Move c ({ c with special }.enter next signs.length)
  /-- Leaves the state of the last component at the end. -/
  | finish {l : Lexeme} {rest : List Lexeme} :
      c.state.component?.isSome → c.rest = l :: rest → l.kind = .finish → Move c (c.enter .done 0)

/-! ### Signs -/

theorem sees_iff {ch : Char} (h : c.rest = l :: rest) : c.sees ch ↔ isSign ch l := by
  simp [sees, h]

theorem isSeparator_of_seesQuery (h : c.rest = l :: rest) (hq : c.seesQuery) :
    IsSeparator l '?' := by
  simp only [seesQuery, Bool.or_eq_true, Bool.and_eq_true] at hq
  rcases hq with hq | ⟨hq, -⟩
  · exact .inl ((sees_iff h).1 hq)
  · exact .inr ⟨rfl, by simpa [h] using hq⟩

/-- Behind a sign stands at least the end. -/
theorem ne_nil_of_isSeparator (hplaced : Placed n (l :: rest)) {ch : Char}
    (h : IsSeparator l ch) : rest ≠ [] := by
  rintro rfl
  have hvalue := h.value_eq
  cases hplaced with
  | finish n => cases hvalue
  | cons _ _ _ hplaced => exact hplaced.ne_nil rfl

/-! ### Looking at a lexeme -/

/-- The cursor is to look at a lexeme outside of braces. -/
structure LooksAt (c : Cursor) (l : Lexeme) (rest : List Lexeme) : Prop where
  rest_eq : c.rest = l :: rest
  placed : ∃ n, Placed n (l :: rest)
  ne_finish : l.kind ≠ .finish
  ne_opening : l.kind ≠ .opening
  depth : c.depth = 0

namespace LooksAt

variable (h : LooksAt c l rest) {next : State} {ch : Char}
include h

theorem isSeparator (hsees : c.sees ch) : IsSeparator l ch := .inl ((sees_iff h.rest_eq).1 hsees)

/-- A lexeme is gathered if it is not the sign that is awaited. A bracket of a host is counted. -/
theorem gather (brackets : Nat) (hsign : ∀ ch ∈ c.state.awaited?, ¬c.sees ch) :
    Move c { c with brackets }.advance := by
  have hmove := Move.gather brackets h.rest_eq h.ne_finish fun _ ch hch => by
    simpa [sees_iff h.rest_eq] using hsign ch hch
  rw [nextDepth, if_neg h.ne_opening, h.depth, Nat.zero_sub, ite_self, ← h.depth] at hmove
  rw [advance, h.rest_eq]
  exact hmove

/-- The cursor goes back at the sign that will be awaited. -/
theorem rewind (hnext : next ∈ c.state.retries) (hawaited : next.awaited? = some ch)
    (hsees : c.sees ch) : Move c (c.rewind next) := by
  refine .rewind hnext fun ch' hch' => ?_
  obtain rfl : ch = ch' := Option.some.inj (hawaited.symm.trans hch')
  exact ⟨h.depth, l, by simp [h.rest_eq], (sees_iff h.rest_eq).1 hsees⟩

/-- A single sign is skipped. -/
theorem leave (special : Bool) (hexit : (next, [ch]) ∈ c.state.exits) (hsign : IsSeparator l ch)
    (hcomponent : c.state.component?.isSome) : Move c ({ c with special }.enter next 1) := by
  obtain ⟨n, hplaced⟩ := h.placed
  exact .leave special hcomponent h.depth hexit (show c.rest = [l] ++ rest from h.rest_eq)
    (ne_nil_of_isSeparator hplaced hsign) (.cons hsign .nil)

/-- The move at the sign of a query or a fragment, or else another one. -/
theorem enterTail (hquery : (.search, ['?']) ∈ c.state.exits)
    (hhash : (.hash, ['#']) ∈ c.state.exits) (hcomponent : c.state.component?.isSome)
    (helse : Move c c') : Move c (c.enterTail c') := by
  rw [Cursor.enterTail]
  split
  · rename_i hsees
    exact h.leave c.special hquery (isSeparator_of_seesQuery h.rest_eq hsees) hcomponent
  · split
    · rename_i hsees
      exact h.leave c.special hhash (h.isSeparator hsees) hcomponent
    · exact helse

/-- The move at the sign of a path, a query or a fragment, or else another one. -/
theorem enterPath (hpath : (.pathname, []) ∈ c.state.exits)
    (hquery : (.search, ['?']) ∈ c.state.exits) (hhash : (.hash, ['#']) ∈ c.state.exits)
    (hcomponent : c.state.component?.isSome) (helse : Move c c') : Move c (c.enterPath c') := by
  rw [Cursor.enterPath]
  split
  · exact .leave c.special hcomponent h.depth hpath (show c.rest = [] ++ c.rest from rfl)
      (by simp [h.rest_eq]) .nil
  · exact h.enterTail hquery hhash hcomponent helse

theorem move_start (hstate : c.state = .start) (hlook : c.look = .ok c') : Move c c' := by
  simp only [look, hstate, Except.ok.injEq] at hlook
  subst hlook
  split
  · rename_i hsees
    exact h.rewind (by simp [hstate, State.retries]) rfl hsees
  · rename_i hsees
    exact h.gather c.brackets (by simpa [hstate, State.awaited?] using hsees)

/-- Behind the colon the cursor goes on, or behind the two slashes that follow it. -/
theorem move_colon (hstate : c.state = .protocol) (hsees : c.sees ':') (special : Bool) :
    Move c (if { c with special }.seesSlashes then { c with special }.enter .authority 3
      else if special then { c with special }.enter .authority 1
      else { c with special }.enter .pathname 1) := by
  have hcomponent : c.state.component?.isSome := by simp [hstate, State.component?]
  have hsign := h.isSeparator hsees
  split
  · rename_i hslashes
    simp only [seesSlashes, h.rest_eq] at hslashes
    split at hslashes
    · rename_i _ l' a b more heq
      cases heq
      rw [Bool.and_eq_true] at hslashes
      obtain ⟨n, hplaced⟩ := h.placed
      have ha := (hplaced.cons_inv (by simp)).2.2.2.2
      have hb := (ha.cons_inv (by simp)).2.2.2.2
      have hbehind : more ≠ [] := ne_nil_of_isSeparator hb (.inl hslashes.2)
      have hexit : (State.authority, [':', '/', '/']) ∈ c.state.exits := by
        simp [hstate, State.exits]
      exact .leave special hcomponent h.depth hexit
        (show c.rest = [l, a, b] ++ more from h.rest_eq) hbehind
        (.cons hsign (.cons (.inl hslashes.1) (.cons (.inl hslashes.2) .nil)))
    · cases hslashes
  · split
    · exact h.leave special (by simp [hstate, State.exits]) hsign hcomponent
    · exact h.leave special (by simp [hstate, State.exits]) hsign hcomponent

theorem move_protocol (hstate : c.state = .protocol) (hlook : c.look = .ok c') : Move c c' := by
  simp only [look, hstate] at hlook
  split at hlook
  · rename_i hsees
    obtain ⟨c₁, hjudge, hlook⟩ := bind_eq_ok.1 hlook
    obtain ⟨p, -, ⟨⟩⟩ := bind_eq_ok.1 hjudge
    cases hlook
    exact h.move_colon hstate hsees _
  · rename_i hsees
    cases hlook
    exact h.gather c.brackets (by simpa [hstate, State.awaited?] using hsees)

theorem move_authority (hstate : c.state = .authority) (hlook : c.look = .ok c') : Move c c' := by
  simp only [look, hstate, Except.ok.injEq] at hlook
  subst hlook
  split
  · rename_i hsees
    exact h.rewind (by simp [hstate, State.retries]) rfl hsees
  · rename_i hsees
    split
    · exact .rewind (by simp [hstate, State.retries]) (by simp [State.awaited?])
    · exact h.gather c.brackets (by simpa [hstate, State.awaited?] using hsees)

theorem move_username (hstate : c.state = .username) (hlook : c.look = .ok c') : Move c c' := by
  have hcomponent : c.state.component?.isSome := by simp [hstate, State.component?]
  simp only [look, hstate, Except.ok.injEq] at hlook
  subst hlook
  split
  · rename_i hsees
    exact h.leave c.special (by simp [hstate, State.exits]) (h.isSeparator hsees) hcomponent
  · split
    · rename_i hsees
      exact h.leave c.special (by simp [hstate, State.exits]) (h.isSeparator hsees) hcomponent
    · rename_i hsees
      exact h.gather c.brackets (by simpa [hstate, State.awaited?] using hsees)

theorem move_password (hstate : c.state = .password) (hlook : c.look = .ok c') : Move c c' := by
  have hcomponent : c.state.component?.isSome := by simp [hstate, State.component?]
  simp only [look, hstate, Except.ok.injEq] at hlook
  subst hlook
  split
  · rename_i hsees
    exact h.leave c.special (by simp [hstate, State.exits]) (h.isSeparator hsees) hcomponent
  · rename_i hsees
    exact h.gather c.brackets (by simpa [hstate, State.awaited?] using hsees)

theorem move_hostname (hstate : c.state = .hostname) (hlook : c.look = .ok c') : Move c c' := by
  have hcomponent : c.state.component?.isSome := by simp [hstate, State.component?]
  have hgather (brackets : Nat) : Move c { c with brackets }.advance :=
    h.gather brackets (by simp [hstate, State.awaited?])
  simp only [look, hstate, Except.ok.injEq] at hlook
  subst hlook
  split
  · simpa only [hstate] using hgather (c.brackets + 1)
  · split
    · simpa only [hstate] using hgather (c.brackets - 1)
    · split
      · rename_i hsees
        exact h.leave c.special (by simp [hstate, State.exits])
          (h.isSeparator (Bool.and_eq_true_iff.1 hsees).1) hcomponent
      · exact h.enterPath (by simp [hstate, State.exits]) (by simp [hstate, State.exits])
          (by simp [hstate, State.exits]) hcomponent (hgather c.brackets)

theorem move_port (hstate : c.state = .port) (hlook : c.look = .ok c') : Move c c' := by
  simp only [look, hstate, Except.ok.injEq] at hlook
  subst hlook
  exact h.enterPath (by simp [hstate, State.exits]) (by simp [hstate, State.exits])
    (by simp [hstate, State.exits]) (by simp [hstate, State.component?])
    (h.gather c.brackets (by simp [hstate, State.awaited?]))

theorem move_pathname (hstate : c.state = .pathname) (hlook : c.look = .ok c') : Move c c' := by
  simp only [look, hstate, Except.ok.injEq] at hlook
  subst hlook
  exact h.enterTail (by simp [hstate, State.exits]) (by simp [hstate, State.exits])
    (by simp [hstate, State.component?]) (h.gather c.brackets (by simp [hstate, State.awaited?]))

theorem move_search (hstate : c.state = .search) (hlook : c.look = .ok c') : Move c c' := by
  simp only [look, hstate, Except.ok.injEq] at hlook
  subst hlook
  split
  · rename_i hsees
    exact h.leave c.special (by simp [hstate, State.exits]) (h.isSeparator hsees)
      (by simp [hstate, State.component?])
  · exact h.gather c.brackets (by simp [hstate, State.awaited?])

theorem move_hash (hstate : c.state = .hash) (hlook : c.look = .ok c') : Move c c' := by
  simp only [look, hstate, Except.ok.injEq] at hlook
  subst hlook
  exact h.gather c.brackets (by simp [hstate, State.awaited?])

/-- Looking at a lexeme outside of braces is a move. -/
theorem move (hdone : c.state ≠ .done) (hlook : c.look = .ok c') : Move c c' := by
  cases hstate : c.state with
  | start => exact h.move_start hstate hlook
  | protocol => exact h.move_protocol hstate hlook
  | authority => exact h.move_authority hstate hlook
  | username => exact h.move_username hstate hlook
  | password => exact h.move_password hstate hlook
  | hostname => exact h.move_hostname hstate hlook
  | port => exact h.move_port hstate hlook
  | pathname => exact h.move_pathname hstate hlook
  | search => exact h.move_search hstate hlook
  | hash => exact h.move_hash hstate hlook
  | done => exact absurd hstate hdone

end LooksAt

/-! ### Looking at the end -/

/-- Looking at the end is a move. -/
theorem move_atEnd {m : Nat} (h : c.rest = l :: rest) (hfinish : l.kind = .finish)
    (hall : Placed m c.pending) (hdone : c.state ≠ .done) :
    Move c c.atEnd := by
  rw [atEnd]
  split <;> rename_i hstate
  · have hagain : Placed m (c.rewind .start).rest := hall
    obtain ⟨l', rest', hrest⟩ := List.exists_cons_of_ne_nil hagain.ne_nil
    have hsign {next : State} {ch : Char} (hexit : (next, [ch]) ∈ State.start.exits)
        (hsign : IsSeparator l' ch) : Move c ((c.rewind .start).enter next 1) :=
      .begin hstate hexit (show c.pending = [l'] ++ rest' from hrest)
        (ne_nil_of_isSeparator (hrest ▸ hagain) hsign) (.cons hsign .nil)
    dsimp only
    split
    · rename_i hsees
      exact hsign (by simp [State.exits]) (.inl ((sees_iff hrest).1 hsees))
    · split
      · rename_i hsees
        exact hsign (by simp [State.exits]) (isSeparator_of_seesQuery hrest hsees)
      · exact .begin hstate (by simp [State.exits]) (show c.pending = [] ++ c.pending from rfl)
          hall.ne_nil .nil
  · exact .rewind (by simp [hstate, State.retries]) (by simp [State.awaited?])
  · refine .finish ?_ h hfinish
    cases hs : c.state <;> simp_all [State.component?]

/-! ### Steps -/

/-- A step, by the lexeme that it looks at. -/
theorem step_cons (h : c.rest = l :: rest) :
    c.step =
      if l.kind = .finish then .ok c.atEnd
      else if l.kind = .opening then .ok { c with depth := c.depth + 1 }.advance
      else if c.depth = 0 then c.look
      else if l.kind = .closing then .ok { c with depth := c.depth - 1 }.advance
      else .ok c.advance := by
  unfold step
  simp only [h]

/-- **Every step is one of the moves.** -/
theorem move_of_step {m : Nat} (hplaced : Placed n c.rest)
    (hall : Placed m c.pending) (hdone : c.state ≠ .done)
    (hstep : c.step = .ok c') : Move c c' := by
  obtain ⟨l, rest, h⟩ := List.exists_cons_of_ne_nil hplaced.ne_nil
  rw [step_cons h] at hstep
  split at hstep
  · rename_i hfinish
    cases hstep
    exact move_atEnd h hfinish hall hdone
  · rename_i hfinish
    have hgather {depth : Nat} (hdepth : nextDepth c.depth l = depth)
        (hsign : c.depth = 0 → ∀ ch ∈ c.state.awaited?, isSign ch l = false) :
        Move c ({ c with depth }.advance) := by
      have hmove := Move.gather c.brackets h hfinish hsign
      rw [hdepth] at hmove
      rw [advance, h]
      exact hmove
    split at hstep
    · rename_i hopening
      cases hstep
      exact hgather (by rw [nextDepth, if_pos hopening]) fun _ _ _ => by simp [isSign, hopening]
    · rename_i hopening
      split at hstep
      · rename_i hdepth
        have hlooks : LooksAt c l rest := ⟨h, ⟨n, h ▸ hplaced⟩, hfinish, hopening, hdepth⟩
        exact hlooks.move hdone hstep
      · rename_i hdepth
        split at hstep
        · rename_i hclosing
          cases hstep
          exact hgather (by rw [nextDepth, if_neg hopening, if_pos hclosing])
            fun hd => absurd hd hdepth
        · rename_i hclosing
          cases hstep
          exact hgather (by rw [nextDepth, if_neg hopening, if_neg hclosing])
            fun hd => absurd hd hdepth

/-! ### No lexeme is lost -/

theorem lexemes_enter (c : Cursor) (next : State) (skip : Nat) :
    (c.enter next skip).lexemes = c.lexemes := by
  simp [enter, lexemes, pending, List.take_append_drop]

theorem lexemes_rewind (c : Cursor) (next : State) : (c.rewind next).lexemes = c.lexemes := by
  simp [rewind, lexemes, pending]

/-- **No move loses a lexeme, repeats one, or changes their order.** -/
theorem Move.lexemes (h : Move c c') : c'.lexemes = c.lexemes := by
  cases h with
  | gather brackets hrest => simp [Cursor.lexemes, pending, hrest]
  | rewind => exact lexemes_rewind c _
  | begin => rw [lexemes_enter, lexemes_rewind]
  | leave special => exact lexemes_enter { c with special } _ _
  | finish => exact lexemes_enter c _ _

end Cursor

end UrlMatch.Fields
