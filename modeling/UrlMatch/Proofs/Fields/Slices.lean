import UrlMatch.Proofs.Fields.Runs

/-!
# The slices of a pattern for whole URLs

Splitting a pattern writes slices of it into components. The slices and the signs between them
make up the pattern: nothing is lost and nothing is used twice. `Tiled` says so byte by byte and
lists, for each two components, the signs that may stand between them.

What a run writes is found at the end of the text first: what is behind a slice is tiled before the
slice is put in front of it. The values that are written stay, as every later state writes a later
component.

## Main results

* `Cursor.tiled_slices`: the slices along a run tile what is ahead of it.
* `Cursor.get_of_mem_slices`: a slice is what its component holds in the end.
* `splitText_tiled`: the slices of a pattern tile it and are the values of their components.
-/

namespace UrlMatch.Fields

open Pattern

/-- A piece of the text, from a byte up to another one, that is written into a component. -/
structure Slice where
  component : Component
  first : Nat
  last : Nat
deriving Repr, DecidableEq

/-! ### Tilings -/

/-- The signs that may stand between two components of a text, of which nothing is written in
between; `none` is in front of the first component. -/
def separators : Option Component → Component → List Text
  | none, .protocol | none, .pathname => [[]]
  | some .protocol, .username | some .protocol, .hostname => [[':'], [':', '/', '/']]
  | some .protocol, .pathname => [[':']]
  | some .username, .password => [[':']]
  | some .username, .hostname | some .password, .hostname => [['@']]
  | some .hostname, .port => [[':']]
  | some .hostname, .pathname | some .port, .pathname => [[]]
  | none, .search | some .hostname, .search | some .port, .search
  | some .pathname, .search => [['?']]
  | none, .hash | some .hostname, .hash | some .port, .hash | some .pathname, .hash
  | some .search, .hash => [['#']]
  | _, _ => []

/-- From the byte `n` up to the byte `m` the text is the signs, each of them possibly behind a
backslash. -/
inductive Separated (t : Text) : Nat → Text → Nat → Prop
  | nil (n : Nat) : Separated t n [] n
  | cons {ch : Char} {signs : Text} {n k m : Nat} :
      t.slice? n k = some [ch] ∨ t.slice? n k = some ['\\', ch] → Separated t k signs m →
      Separated t n (ch :: signs) m

/-- From the byte `n` on the text is the slices, one behind the other, with separators in between.
What is in front of `n` was written into `prev`. -/
inductive Tiled (t : Text) : Option Component → Nat → List Slice → Prop
  | finish (prev : Component) : Tiled t (some prev) (Text.utf8Size t) []
  | slice {prev : Option Component} {comp : Component} {signs : Text} {n first last : Nat}
      {slices : List Slice} :
      signs ∈ separators prev comp → Separated t n signs first → first ≤ last →
      Tiled t (some comp) last slices → Tiled t prev n (⟨comp, first, last⟩ :: slices)

/-- What stands between two components tells their order. -/
theorem index_lt_of_mem_separators {prev comp : Component} {signs : Text}
    (h : signs ∈ separators (some prev) comp) : prev.index < comp.index := by
  cases prev <;> cases comp <;> first | (simp [separators] at h; done) | decide

namespace Separated

variable {t signs : Text} {n m : Nat}

theorem le_of_slice? {v : Text} (h : t.slice? n m = some v) : n ≤ m := by
  by_contra hlt
  simp [Text.slice?, hlt] at h

theorem le (h : Separated t n signs m) : n ≤ m := by
  induction h with
  | nil => exact Nat.le_refl _
  | cons hsign _ ih => exact Nat.le_trans (hsign.elim le_of_slice? le_of_slice?) ih

end Separated

namespace Tiled

variable {t : Text} {prev : Option Component} {n : Nat} {slices : List Slice}

/-- The slices of a tiling lie behind what is in front of it, in place and in order. -/
theorem behind (h : Tiled t prev n slices) :
    ∀ s ∈ slices, n ≤ s.first ∧ ∀ comp ∈ prev, comp.index < s.component.index := by
  induction h with
  | finish => nofun
  | slice hsigns hseparated hle _ ih =>
      refine List.forall_mem_cons.2 ⟨⟨hseparated.le, ?_⟩, fun s hs => ?_⟩
      · rintro comp ⟨⟩
        exact index_lt_of_mem_separators hsigns
      · obtain ⟨hfirst, hindex⟩ := ih s hs
        refine ⟨Nat.le_trans hseparated.le (Nat.le_trans hle hfirst), ?_⟩
        rintro comp ⟨⟩
        exact Nat.lt_trans (index_lt_of_mem_separators hsigns) (hindex _ rfl)

/-- The slices of a tiling are disjoint, and in the order of their components. -/
theorem pairwise (h : Tiled t prev n slices) :
    slices.Pairwise fun s s' => s.last ≤ s'.first ∧ s.component.index < s'.component.index := by
  induction h with
  | finish => exact .nil
  | slice _ _ _ htiled ih =>
      refine .cons (fun s hs => ?_) ih
      obtain ⟨hfirst, hindex⟩ := htiled.behind s hs
      exact ⟨hfirst, hindex _ rfl⟩

end Tiled

/-- A separator is written as its sign, possibly behind a backslash. -/
theorem IsSeparator.spells {l : Lexeme} {ch : Char} (h : IsSeparator l ch) (hread : l.Read) :
    l.Spells ch := by
  have hvalue := h.value_eq
  rw [Lexeme.Spells, Lexeme.written]
  cases hkind : l.kind with
  | name =>
      have hname : IsName l.value := by
        rcases hread with hvalid | ⟨hinvalid, -⟩
        · rwa [Lexeme.Valid, hkind] at hvalid
        · simp [hinvalid] at hkind
      rcases h with h | ⟨rfl, -⟩
      · simp [Cursor.isSign, hkind] at h
      · exact absurd (hvalue ▸ hname).2 (by decide +kernel)
  | regexp =>
      have hregexp : IsRegexp l.value := by
        rcases hread with hvalid | ⟨hinvalid, -⟩
        · rwa [Lexeme.Valid, hkind] at hvalid
        · simp [hinvalid] at hkind
      rcases h with h | ⟨rfl, -⟩
      · simp [Cursor.isSign, hkind] at h
      · exact absurd (congrArg List.head? hvalue) hregexp.head_ne
  | _ => simp [hvalue]

/-- Separators that follow one another are the signs, byte by byte. -/
theorem separated_of_placed {ls front skipped behind : List Lexeme} {signs : Text}
    (h : Placed 0 ls) (hls : front ++ (skipped ++ behind) = ls) (hne : behind ≠ [])
    (hsigns : List.Forall₂ IsSeparator skipped signs) :
    Separated (spelling ls) (startOf (skipped ++ behind)) signs (startOf behind) := by
  subst hls
  induction hsigns generalizing front with
  | nil => exact .nil _
  | @cons l ch skipped signs hsign _ ih =>
      have hbehind : skipped ++ behind ≠ [] := List.append_ne_nil_of_right_ne_nil _ hne
      have hread : l.Read := h.read l (by simp)
      have hplaced : Placed 0 (front ++ [l] ++ (skipped ++ behind)) := by simpa using h
      have hslice := (show Placed 0 (front ++ ([l] ++ (skipped ++ behind))) from h).slice? hbehind
      have hrest := ih hplaced
      rw [List.append_assoc] at hrest
      rw [spelling_cons, spelling_nil, List.append_nil] at hslice
      refine .cons ?_ hrest
      rcases hsign.spells hread with hwritten | hwritten
      · exact .inl (hwritten ▸ hslice)
      · exact .inr (hwritten ▸ hslice)

/-! ### Writing -/

namespace Cursor

/-- The slice that a cursor writes when it goes on as `c'`. -/
def written? (c c' : Cursor) : Option Slice :=
  if c'.state = c.state then none
  else c.state.component?.map fun comp => ⟨comp, startOf c.pending, startOf c.rest⟩

/-- The slices that are written along a run. -/
def slices : (fuel : Nat) → Cursor → List Slice
  | 0, _ => []
  | fuel + 1, c =>
    if c.state = .done then []
    else match c.step with
      | .ok c' => (c.written? c').toList ++ slices fuel c'
      | .error _ => []

variable {ls : List Lexeme} {c c' : Cursor} {comp : Component} {v : Text}

theorem slices_done (fuel : Nat) (h : c.state = .done) : slices fuel c = [] := by
  cases fuel with
  | zero => rfl
  | succ fuel => exact if_pos h

theorem slices_step {fuel : Nat} (hdone : c.state ≠ .done) (hstep : c.step = .ok c') :
    slices (fuel + 1) c = (c.written? c').toList ++ slices fuel c' := by
  rw [slices, if_neg hdone, hstep]

/-- What is gathered is a slice of the text. -/
theorem Sound.slice? (h : Sound ls c) :
    (spelling ls).slice? (startOf c.pending) (startOf c.rest) = some c.text := by
  have hplaced : Placed 0 c.lexemes := h.lexemes.symm ▸ h.placed
  rw [← h.lexemes]
  exact hplaced.slice? h.rest_ne_nil

/-- A move writes what is gathered when it leaves the state of a component. -/
theorem Move.written_of_leave {next : State} {skip : Nat} {special : Bool}
    (hstate : next ≠ c.state) (hcomp : c.state.component? = some comp) :
    c.written? ({ c with special }.enter next skip) =
      some ⟨comp, startOf c.pending, startOf c.rest⟩ := by
  have hne : ({ c with special }.enter next skip).state ≠ c.state := hstate
  rw [written?, if_neg hne, hcomp]
  rfl

/-- No component is gathered where the cursor goes back. -/
theorem written_rewind {next : State} (hnext : next ∈ c.state.retries) :
    c.written? (c.rewind next) = none := by
  have hcomp : c.state.component? = none := by
    cases hs : c.state <;> simp_all [State.retries, State.component?]
  rw [written?, hcomp]
  exact ite_self none

end Cursor

/-! ### Writing tiles the text -/

namespace State

/-- The component that is written first from a state on, or the two that it may be. -/
def heads : State → List Component
  | authority => [.username, .hostname]
  | s => s.component?.toList

/-- At an exit stand signs that may stand between the two components. -/
theorem mem_separators_of_mem_exits {s next : State} {signs : Text} {comp : Component}
    (h : (next, signs) ∈ s.exits) (hcomp : comp ∈ next.heads) :
    signs ∈ separators s.component? comp := by
  have hall : ∀ e ∈ s.exits, ∀ comp ∈ e.1.heads, e.2 ∈ separators s.component? comp := by
    cases s <;> decide
  exact hall _ h comp hcomp

theorem mem_heads_of_component? {s : State} {comp : Component} (h : s.component? = some comp) :
    comp ∈ s.heads := by
  cases s <;> cases h <;> simp [heads, component?]

theorem mem_heads_of_mem_retries {s next : State} {comp : Component} (hs : s ≠ .start)
    (h : next ∈ s.retries) (hcomp : comp ∈ next.heads) : comp ∈ s.heads := by
  have hall : s ≠ .start → ∀ e ∈ s.retries, ∀ comp ∈ e.heads, comp ∈ s.heads := by
    cases s <;> decide
  exact hall hs _ h comp hcomp

theorem ne_done_of_mem_retries {s next : State} (h : next ∈ s.retries) : next ≠ .done := by
  rintro rfl
  cases s <;> simp [retries] at h

theorem ne_done_of_mem_exits {s next : State} {signs : Text} (h : (next, signs) ∈ s.exits) :
    next ≠ .done := by
  have hall : ∀ e ∈ s.exits, e.1 ≠ .done := by cases s <;> decide
  exact hall _ h

end State

namespace Cursor

variable {ls : List Lexeme} {c c' : Cursor} {t : Text} {more : List Slice}

/-- What a cursor has still to write: the slices of a text from its beginning on, nothing, or a
slice that begins with what is gathered and others behind it. -/
inductive Continues (t : Text) (c : Cursor) : List Slice → Prop
  | start {slices : List Slice} : c.state = .start → Tiled t none 0 slices → Continues t c slices
  | done : c.state = .done → Continues t c []
  | slice {comp : Component} {last : Nat} {slices : List Slice} :
      comp ∈ c.state.heads → startOf c.pending ≤ last → Tiled t (some comp) last slices →
      Continues t c (⟨comp, startOf c.pending, last⟩ :: slices)

/-- Behind the signs of an exit the tiling goes on. -/
theorem Continues.tiled {s : State} {signs : Text} {n : Nat} (h : Continues t c more)
    (hexit : (c.state, signs) ∈ s.exits) (hseparated : Separated t n signs (startOf c.pending)) :
    Tiled t s.component? n more := by
  cases h with
  | start hs => exact absurd hs (State.ne_start_of_rank_lt (State.rank_lt_of_mem_exits hexit))
  | done hs => exact absurd hs (State.ne_done_of_mem_exits hexit)
  | slice hcomp hle htiled =>
      exact .slice (State.mem_separators_of_mem_exits hexit hcomp) hseparated hle htiled

/-- What is gathered ends behind where it starts. -/
theorem Sound.startOf_le (h : Sound ls c) : startOf c.pending ≤ startOf c.rest :=
  Separated.le_of_slice? h.slice?

/-- At the end of the lexemes the text ends. -/
theorem Sound.startOf_finish {l : Lexeme} {rest : List Lexeme} (h : Sound ls c)
    (hrest : c.rest = l :: rest) (hl : l.kind = .finish) :
    startOf c.rest = Text.utf8Size (spelling ls) := by
  have hls : ls = (c.before.reverse ++ c.gathered.reverse) ++ l :: rest := by
    rw [← hrest, List.append_assoc]
    exact h.lexemes.symm
  have hfinish := (hls ▸ h.placed).append (List.cons_ne_nil l rest)
  obtain ⟨rfl, rfl⟩ := hfinish.eq_finish hl
  rw [hrest, hls, hfinish.startOf_eq]
  simp [Lexeme.written]

/-- At the start gathering begins with the first byte. -/
theorem Sound.startOf_eq_zero (h : Sound ls c) (hs : c.state = .start) :
    startOf c.pending = 0 := by
  have hlexemes := h.lexemes
  rw [Cursor.lexemes, h.before_eq_nil hs] at hlexemes
  exact (congrArg startOf hlexemes).trans h.placed.startOf_eq

/-- **A move writes a slice in front of those that are tiled behind it.** -/
theorem Sound.continues_of_move (h : Sound ls c) (hmove : Move c c')
    (hc : Continues (spelling ls) c' more) :
    Continues (spelling ls) c ((c.written? c').toList ++ more) := by
  cases hmove with
  | @gather l rest brackets hrest hfinish hsign =>
      have hwritten : c.written? { c with
          depth := nextDepth c.depth l, brackets, gathered := l :: c.gathered, rest } = none :=
        if_pos rfl
      have hpending : ({ c with
          depth := nextDepth c.depth l, brackets, gathered := l :: c.gathered, rest } :
            Cursor).pending = c.pending := by
        simp [pending, hrest]
      rw [hwritten, Option.toList_none, List.nil_append]
      cases hc with
      | start hs htiled => exact .start hs htiled
      | done hs => exact .done hs
      | slice hcomp hle htiled =>
          rw [hpending] at hle ⊢
          exact .slice hcomp hle htiled
  | @rewind next hnext hsign =>
      rw [written_rewind hnext, Option.toList_none, List.nil_append]
      cases hc with
      | start hs => exact absurd hs (State.ne_start_of_rank_lt (State.rank_lt_of_mem_retries hnext))
      | done hs => exact absurd hs (State.ne_done_of_mem_retries hnext)
      | slice hcomp hle htiled =>
          by_cases hs : c.state = .start
          · have hfirst : startOf (c.rewind next).pending = 0 := h.startOf_eq_zero hs
            have hseparated : Separated (spelling ls) 0 [] (startOf (c.rewind next).pending) :=
              hfirst.symm ▸ .nil 0
            obtain rfl : next = .protocol := by simpa [hs, State.retries] using hnext
            cases List.mem_singleton.1 (hcomp : _ ∈ [Component.protocol])
            exact .start hs (.slice (by simp [separators]) hseparated hle htiled)
          · exact .slice (State.mem_heads_of_mem_retries hs hnext hcomp) hle htiled
  | @begin next signs skipped behind hs hexit hpending hbehind hsigns =>
      have hwritten : c.written? ((c.rewind .start).enter next signs.length) = none := by
        rw [written?, hs]
        exact ite_self none
      have hseparated := separated_of_placed h.placed
        (hpending ▸ h.lexemes : c.before.reverse ++ (skipped ++ behind) = ls) hbehind hsigns
      have hrest : ((c.rewind .start).enter next signs.length).rest = behind :=
        rest_enter hpending hsigns
      rw [← hpending, h.startOf_eq_zero hs, ← hrest] at hseparated
      rw [hwritten, Option.toList_none, List.nil_append]
      exact .start hs (hc.tiled (s := .start) hexit hseparated)
  | @leave next signs skipped behind special hcomponent hdepth hexit hrest hbehind hsigns =>
      obtain ⟨comp, hcomp⟩ := Option.isSome_iff_exists.1 hcomponent
      have hne : next ≠ c.state := fun heq =>
        Nat.lt_irrefl _ (heq ▸ State.rank_lt_of_mem_exits hexit)
      have hlexemes : c.before.reverse ++ c.gathered.reverse ++ (skipped ++ behind) = ls := by
        rw [← hrest, List.append_assoc]
        exact h.lexemes
      have hseparated := separated_of_placed h.placed hlexemes hbehind hsigns
      have hbehind' : ({ c with special }.enter next signs.length).rest = behind :=
        rest_enter hrest hsigns
      rw [← hrest, ← hbehind'] at hseparated
      rw [Move.written_of_leave hne hcomp, Option.toList_some, List.singleton_append]
      exact .slice (State.mem_heads_of_component? hcomp) h.startOf_le
        (hcomp ▸ hc.tiled hexit hseparated)
  | finish hcomponent hrest hfinish =>
      obtain ⟨comp, hcomp⟩ := Option.isSome_iff_exists.1 hcomponent
      have hne : .done ≠ c.state := by
        rintro heq
        simp [← heq, State.component?] at hcomp
      rw [Move.written_of_leave hne hcomp, Option.toList_some, List.singleton_append]
      cases hc with
      | start hs => cases hs
      | done => 
          refine .slice (State.mem_heads_of_component? hcomp) h.startOf_le ?_
          rw [h.startOf_finish hrest hfinish]
          exact .finish comp
      | slice hmem => simp [State.heads, State.component?, enter] at hmem

/-- **The slices that are written along a run tile the text** from where the run begins. -/
theorem tiled_slices {fuel : Nat} (h : Sound ls c) (hfuel : c.potential ≤ fuel)
    (hrun : run fuel c = .ok c') : Continues (spelling ls) c (slices fuel c) := by
  induction fuel generalizing c with
  | zero =>
      have hpos : 0 < c.rest.length := List.length_pos_iff.2 h.rest_ne_nil
      have hle := length_rest_le_potential c
      omega
  | succ fuel ih =>
      rw [run] at hrun
      split at hrun
      · rename_i hdone
        rw [slices_done _ hdone]
        exact .done hdone
      · rename_i hdone
        obtain ⟨c₁, hstep, hrun⟩ := bind_eq_ok.1 hrun
        have hmove := h.move hdone hstep
        have hlt := h.potential_lt hmove
        rw [slices_step hdone hstep]
        exact h.continues_of_move hmove (ih (h.of_move hmove) (by omega) hrun)

end Cursor

/-! ### The values that are written -/

/-- The values `vs'` are those of `vs`, with an empty text or a slash for some that are missing. -/
def FilledIn (vs vs' : Components (Option Text)) : Prop :=
  ∀ comp, vs'.get comp = vs.get comp ∨
    vs.get comp = none ∧ (vs'.get comp = some [] ∨ vs'.get comp = some ['/'])

namespace FilledIn

variable {vs vs' vs'' : Components (Option Text)} {comp : Component} {v : Text}

theorem refl (vs : Components (Option Text)) : FilledIn vs vs := fun _ => .inl rfl

theorem trans (h : FilledIn vs vs') (h' : FilledIn vs' vs'') : FilledIn vs vs'' := by
  intro comp
  rcases h' comp with heq | ⟨hnone, hfilled⟩
  · rw [heq]
    exact h comp
  · refine .inr ⟨?_, hfilled⟩
    rcases h comp with heq | ⟨hnone', -⟩
    · rw [← heq, hnone]
    · exact hnone'

/-- What is missing may be set. -/
theorem set (hnone : vs.get comp = none) (hv : v = [] ∨ v = ['/']) :
    FilledIn vs (vs.set comp (some v)) := by
  intro comp'
  by_cases hcomp : comp = comp'
  · subst hcomp
    refine .inr ⟨hnone, ?_⟩
    rw [Components.get_set_self]
    exact hv.imp (congrArg some) (congrArg some)
  · exact .inl (Components.get_set_of_ne vs _ hcomp)

/-- What is there stays. -/
theorem get (h : FilledIn vs vs') (hv : vs.get comp = some v) : vs'.get comp = some v := by
  rcases h comp with heq | ⟨hnone, -⟩
  · rw [heq, hv]
  · simp [hnone] at hv

/-- What is there in the end was there before or is filled in. -/
theorem cases (h : FilledIn vs vs') (hv : vs'.get comp = some v) :
    vs.get comp = some v ∨ v = [] ∨ v = ['/'] := by
  rcases h comp with heq | ⟨-, heq | heq⟩
  · exact .inl (heq ▸ hv)
  · exact .inr (.inl (Option.some.inj (hv.symm.trans heq)))
  · exact .inr (.inr (Option.some.inj (hv.symm.trans heq)))

end FilledIn

namespace Cursor

variable {ls : List Lexeme} {c c' : Cursor} {comp : Component} {v : Text}

/-- What is implied is filled in. -/
theorem filledIn_implied (c : Cursor) (next : State) (vs : Components (Option Text)) :
    FilledIn vs (c.implied next vs) := by
  have hfill (when : Bool) (comp : Component) (v : Text) (hv : v = [] ∨ v = ['/'])
      (vs : Components (Option Text)) :
      FilledIn vs (if when && (vs.get comp).isNone then vs.set comp (some v) else vs) := by
    split
    · rename_i h
      exact .set (by simpa using (Bool.and_eq_true_iff.1 h).2) hv
    · exact .refl vs
  have hpath (special : Bool) :
      (if special then ['/'] else ([] : Text)) = [] ∨ (if special then ['/'] else []) = ['/'] := by
    cases special <;> simp
  exact ((hfill _ _ _ (.inl rfl) vs).trans (hfill _ _ _ (hpath c.special) _)).trans
    (hfill _ _ _ (.inl rfl) _)

/-- The port of a host is filled in. -/
theorem filledIn_result (c : Cursor) : FilledIn c.values c.result := by
  rw [result]
  split
  · rename_i h
    have hport : c.values.get .port = none := Option.isNone_iff_eq_none.1 h.2
    exact .set hport (.inl rfl)
  · exact .refl _

/-- The values with what is gathered among them. -/
def writtenValues (c : Cursor) : Components (Option Text) :=
  match c.state.component? with
  | some comp => c.values.set comp (some c.text)
  | none => c.values

/-- Behind another state only what is implied is filled in. -/
theorem filledIn_enter (c : Cursor) (next : State) (skip : Nat) :
    FilledIn c.writtenValues (c.enter next skip).values := by
  rw [enter]
  dsimp only
  split
  · exact .refl _
  · exact filledIn_implied c next _

/-- A move writes nothing, or what is gathered into its component. -/
theorem Move.writes (h : Move c c') :
    (c.written? c' = none ∧ FilledIn c.values c'.values) ∨
      ∃ comp, c.state.component? = some comp ∧
        c.written? c' = some ⟨comp, startOf c.pending, startOf c.rest⟩ ∧
        FilledIn (c.values.set comp (some c.text)) c'.values := by
  have hleave {next : State} {skip : Nat} (special : Bool) (hne : next ≠ c.state)
      (hcomponent : c.state.component?.isSome) :
      ∃ comp, c.state.component? = some comp ∧
        c.written? ({ c with special }.enter next skip) =
          some ⟨comp, startOf c.pending, startOf c.rest⟩ ∧
        FilledIn (c.values.set comp (some c.text))
          ({ c with special }.enter next skip).values := by
    obtain ⟨comp, hcomp⟩ := Option.isSome_iff_exists.1 hcomponent
    have hfilled := filledIn_enter { c with special } next skip
    rw [writtenValues, hcomp] at hfilled
    exact ⟨comp, hcomp, written_of_leave hne hcomp, hfilled⟩
  cases h with
  | gather => exact .inl ⟨if_pos rfl, .refl _⟩
  | rewind hnext => exact .inl ⟨written_rewind hnext, .refl _⟩
  | @begin next signs skipped behind hs =>
      have hfilled := filledIn_enter (c.rewind .start) next signs.length
      refine .inl ⟨?_, hfilled⟩
      rw [written?, hs]
      exact ite_self none
  | leave special hcomponent _ hexit =>
      refine .inr (hleave special (fun heq => ?_) hcomponent)
      exact Nat.lt_irrefl _ (heq ▸ State.rank_lt_of_mem_exits hexit)
  | finish hcomponent =>
      refine .inr (hleave c.special (fun heq => ?_) hcomponent)
      simp [← heq, State.component?] at hcomponent

/-- No move goes back to an earlier state, and one that writes goes on to a later one. -/
theorem Move.rank_le (h : Move c c') : c.state.rank ≤ c'.state.rank := by
  cases h with
  | gather => exact Nat.le_refl _
  | rewind hnext => exact Nat.le_of_lt (State.rank_lt_of_mem_retries hnext)
  | begin hs =>
      rw [hs]
      exact Nat.zero_le _
  | leave _ _ _ hexit => exact Nat.le_of_lt (State.rank_lt_of_mem_exits hexit)
  | finish => exact c.state.rank_le

/-- The cursor is behind the state in which a component is gathered. -/
def Passed (c : Cursor) (comp : Component) : Prop :=
  ∀ s : State, s.component? = some comp → s.rank < c.state.rank

theorem Passed.of_move (h : Passed c comp) (hmove : Move c c') : Passed c' comp :=
  fun s hs => Nat.lt_of_lt_of_le (h s hs) hmove.rank_le

theorem passed_of_written {s : Slice} (hmove : Move c c') (h : s ∈ c.written? c') :
    Passed c' s.component := by
  rw [written?] at h
  split at h
  · cases h
  · rename_i hne
    obtain ⟨comp, hcomp, rfl⟩ := Option.map_eq_some_iff.1 h
    intro s hs
    obtain rfl := State.eq_of_component? hs hcomp
    refine Nat.lt_of_le_of_ne hmove.rank_le fun heq => hne ?_
    exact (State.rank_injective heq).symm

/-- A move keeps the value of a component that is passed. -/
theorem Move.get_of_passed (h : Move c c') (hpassed : Passed c comp)
    (hv : c.values.get comp = some v) : c'.values.get comp = some v := by
  rcases h.writes with ⟨-, hfilled⟩ | ⟨comp', hcomp, -, hfilled⟩
  · exact hfilled.get hv
  · refine hfilled.get ((Components.get_set_of_ne _ _ ?_).trans hv)
    rintro rfl
    exact Nat.lt_irrefl _ (hpassed _ hcomp)

/-- **A run keeps the value of a component that is passed.** -/
theorem get_of_passed {fuel : Nat} (h : Sound ls c) (hrun : run fuel c = .ok c')
    (hpassed : Passed c comp) (hv : c.values.get comp = some v) :
    c'.values.get comp = some v := by
  induction fuel generalizing c with
  | zero =>
      cases hrun
      exact hv
  | succ fuel ih =>
      rw [run] at hrun
      split at hrun
      · cases hrun
        exact hv
      · rename_i hdone
        obtain ⟨c₁, hstep, hrun⟩ := bind_eq_ok.1 hrun
        have hmove := h.move hdone hstep
        exact ih (h.of_move hmove) hrun (hpassed.of_move hmove) (hmove.get_of_passed hpassed hv)

/-- **A slice that is written is what its component holds in the end**, and both of its ends are
starts of lexemes. -/
theorem get_of_mem_slices {fuel : Nat} (h : Sound ls c) (hrun : run fuel c = .ok c') {s : Slice}
    (hs : s ∈ slices fuel c) :
    (∃ l ∈ ls, l.start = s.first) ∧ (∃ l ∈ ls, l.start = s.last) ∧
      ∃ v, (spelling ls).slice? s.first s.last = some v ∧
        c'.values.get s.component = some v := by
  induction fuel generalizing c with
  | zero => cases hs
  | succ fuel ih =>
      rw [run] at hrun
      split at hrun
      · rename_i hdone
        rw [slices_done _ hdone] at hs
        cases hs
      · rename_i hdone
        obtain ⟨c₁, hstep, hrun⟩ := bind_eq_ok.1 hrun
        have hmove := h.move hdone hstep
        have hsound := h.of_move hmove
        rw [slices_step hdone hstep, List.mem_append, Option.mem_toList] at hs
        rcases hs with hs | hs
        · have hpassed := passed_of_written hmove hs
          rcases hmove.writes with ⟨hnone, -⟩ | ⟨comp, -, hwritten, hfilled⟩
          · simp [hnone] at hs
          · obtain rfl : s = _ := (Option.some.inj (hwritten.symm.trans hs)).symm
            refine ⟨?_, ?_, c.text, h.slice?, get_of_passed hsound hrun hpassed
              (hfilled.get (Components.get_set_self _ _ _))⟩
            · obtain ⟨l, hl, hstart⟩ := exists_mem_start
                (List.append_ne_nil_of_right_ne_nil c.gathered.reverse h.rest_ne_nil)
              exact ⟨l, h.lexemes ▸ List.mem_append_right _ hl, hstart⟩
            · obtain ⟨l, hl, hstart⟩ := exists_mem_start h.rest_ne_nil
              exact ⟨l, h.lexemes ▸ List.mem_append_right _ (List.mem_append_right _ hl), hstart⟩
        · exact ih hsound hrun hs

/-- **What a component holds in the end** it held before, is a slice that is written, or is filled
in. -/
theorem mem_slices_of_get {fuel : Nat} (h : Sound ls c) (hrun : run fuel c = .ok c')
    (hv : c'.values.get comp = some v) :
    c.values.get comp = some v ∨ (∃ s ∈ slices fuel c, s.component = comp) ∨ v = [] ∨
      v = ['/'] := by
  induction fuel generalizing c with
  | zero =>
      cases hrun
      exact .inl hv
  | succ fuel ih =>
      rw [run] at hrun
      split at hrun
      · cases hrun
        exact .inl hv
      · rename_i hdone
        obtain ⟨c₁, hstep, hrun⟩ := bind_eq_ok.1 hrun
        have hmove := h.move hdone hstep
        rw [slices_step hdone hstep]
        rcases ih (h.of_move hmove) hrun with hget | ⟨s, hs, hcomp⟩ | hv
        · rcases hmove.writes with ⟨-, hfilled⟩ | ⟨comp', -, hwritten, hfilled⟩
          · exact (hfilled.cases hget).imp_right .inr
          · by_cases hcomp : comp' = comp
            · exact .inr (.inl ⟨_, List.mem_append_left _ (Option.mem_toList.2 hwritten), hcomp⟩)
            · rcases hfilled.cases hget with hget | hv
              · rw [Components.get_set_of_ne _ _ hcomp] at hget
                exact .inl hget
              · exact .inr (.inr hv)
        · exact .inr (.inl ⟨s, List.mem_append_right _ hs, hcomp⟩)
        · exact .inr (.inr hv)

end Cursor

/-! ### The slices of a pattern -/

/-- The slices of a pattern for whole URLs that are written into its components. -/
def slicesOf (t : Text) : List Slice :=
  match lex .lenient t with
  | .error _ => []
  | .ok ls => (Cursor.initial ls).slices (Cursor.fuelFor ls.length)

/-- A lexeme of the text starts at the byte `n`. -/
def StartsLexeme (t : Text) (n : Nat) : Prop :=
  ∃ ls, lex .lenient t = .ok ls ∧ ∃ l ∈ ls, l.start = n

/-- **The slices that splitting writes make up the pattern, with separators in between**, each in
the place that its component has among the others. They are disjoint and in order, begin and end
where lexemes start, and each is the value of its component. What is in no slice of its own is
missing, empty or the path of a special scheme. -/
theorem splitText_tiled {t : Text} {values : Components (Option Text)}
    (h : splitText t = .ok values) :
    Tiled t none 0 (slicesOf t) ∧
      (slicesOf t).Pairwise
        (fun s s' => s.last ≤ s'.first ∧ s.component.index < s'.component.index) ∧
      (∀ s ∈ slicesOf t, StartsLexeme t s.first ∧ StartsLexeme t s.last ∧
        ∃ v, t.slice? s.first s.last = some v ∧ values.get s.component = some v) ∧
      ∀ comp v, values.get comp = some v →
        (∃ s ∈ slicesOf t, s.component = comp) ∨ v = [] ∨ v = ['/'] := by
  obtain ⟨ls, hls⟩ := exists_lexFrom_lenient 0 t
  have hlex : lex .lenient t = .ok ls := hls
  obtain ⟨hplaced, rfl⟩ := placed_of_lexFrom hls
  have hslices : slicesOf (spelling ls) =
      (Cursor.initial ls).slices (Cursor.fuelFor ls.length) := by
    rw [slicesOf, hlex]
  have hsound := Cursor.sound_initial hplaced
  rw [splitText, hlex] at h
  obtain ⟨c, hrun, ⟨⟩⟩ := bind_eq_ok.1 h
  have htiled : Tiled (spelling ls) none 0 (slicesOf (spelling ls)) := by
    have hcontinues := Cursor.tiled_slices hsound (Cursor.potential_initial ls).le hrun
    rw [hslices]
    generalize (Cursor.initial ls).slices (Cursor.fuelFor ls.length) = slices at hcontinues
    cases hcontinues with
    | start _ htiled => exact htiled
    | done hs => cases hs
    | slice hmem => cases hmem
  refine ⟨htiled, htiled.pairwise, fun s hs => ?_, fun comp v hv => ?_⟩
  · rw [hslices] at hs
    obtain ⟨hfirst, hlast, v, hslice, hv⟩ := Cursor.get_of_mem_slices hsound hrun hs
    exact ⟨⟨ls, hlex, hfirst⟩, ⟨ls, hlex, hlast⟩, v, hslice, (Cursor.filledIn_result c).get hv⟩
  · rcases (Cursor.filledIn_result c).cases hv with hv | hv
    · rcases Cursor.mem_slices_of_get hsound hrun hv with hnone | hmem
      · simp [Cursor.initial] at hnone
      · exact hslices ▸ hmem
    · exact .inr hv

/-- A pattern with a part for each component. The colon between the braces is none of the signs
that separate them, nor is the question mark behind the name. -/
theorem splitText_tiled_every_component :
    ∃ values, splitText "http\\s://u\\:p@\x7bh:g\x7d?:80/:a?\\?d#e".toList = .ok values ∧
      slicesOf "http\\s://u\\:p@\x7bh:g\x7d?:80/:a?\\?d#e".toList =
        [⟨.protocol, 0, 6⟩, ⟨.username, 9, 10⟩, ⟨.password, 12, 13⟩, ⟨.hostname, 14, 20⟩,
          ⟨.port, 21, 23⟩, ⟨.pathname, 23, 27⟩, ⟨.search, 29, 30⟩, ⟨.hash, 31, 32⟩] ∧
      Tiled "http\\s://u\\:p@\x7bh:g\x7d?:80/:a?\\?d#e".toList none 0
        (slicesOf "http\\s://u\\:p@\x7bh:g\x7d?:80/:a?\\?d#e".toList) := by
  have h : splitText "http\\s://u\\:p@\x7bh:g\x7d?:80/:a?\\?d#e".toList = .ok
      { protocol := some "http\\s".toList, username := some ['u'], password := some ['p'],
        hostname := some "\x7bh:g\x7d?".toList, port := some "80".toList,
        pathname := some "/:a?".toList, search := some ['d'], hash := some ['e'] } := by
    decide +kernel
  exact ⟨_, h, by decide +kernel, (splitText_tiled h).1⟩

end UrlMatch.Fields
