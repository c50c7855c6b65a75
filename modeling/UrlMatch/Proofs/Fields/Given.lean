import UrlMatch.Proofs.Fields.Slices

/-!
# The parts that splitting leaves set

A pattern for whole URLs need not have every part. A part that it lacks is left out or implied by
the parts around it, so some parts never come without others: a user name does not come without a
protocol, a fragment behind a path does not come without a query.

Each state of the cursor says which parts are there when it is reached. Two things have to be known
for that. Leaving a state adds the component of the next one and those that are implied on the way.
And the text does not end in the state of a protocol, a user name or a password: the cursor goes
there only when it has seen the sign behind them, so this sign is still `Ahead`.

## Main results

* `Cursor.Awaits.of_move`: moves keep the sign ahead that a state waits for.
* `Cursor.fits_of_run`: what the states say about the parts that are there holds along a run.
* `split_given`: which parts come with which others when a pattern is split.
-/

namespace UrlMatch.Fields

open Pattern

/-! ### The sign ahead -/

/-- The sign comes outside of braces, when `depth` braces are open. -/
def Ahead (ch : Char) (depth : Nat) (ls : List Lexeme) : Prop :=
  ∃ front l behind, ls = front ++ l :: behind ∧ front.foldl nextDepth depth = 0 ∧
    Cursor.isSign ch l

namespace Ahead

variable {ch : Char} {depth : Nat} {l : Lexeme} {ls : List Lexeme}

/-- A lexeme that is not the sign may be passed over. -/
theorem tail (h : Ahead ch depth (l :: ls)) (hl : depth = 0 → Cursor.isSign ch l = false) :
    Ahead ch (nextDepth depth l) ls := by
  obtain ⟨front, l', behind, hls, hdepth, hsign⟩ := h
  cases front with
  | nil =>
      obtain ⟨rfl, -⟩ := List.cons_eq_cons.1 hls
      exact absurd hsign (Bool.eq_false_iff.1 (hl hdepth))
  | cons l₁ front =>
      obtain ⟨rfl, rfl⟩ := List.cons_eq_cons.1 hls
      exact ⟨front, l', behind, rfl, hdepth, hsign⟩

/-- The end is no sign. -/
theorem ne_finish (h : Ahead ch depth [l]) : l.kind ≠ .finish := by
  obtain ⟨front, l', behind, hls, -, hsign⟩ := h
  obtain ⟨-, rfl, -⟩ : front = [] ∧ l = l' ∧ behind = [] := by
    simpa [List.append_eq_singleton_iff, eq_comm] using hls
  intro hfinish
  simp [Cursor.isSign, hfinish] at hsign

end Ahead

/-- A sign opens and closes nothing. -/
theorem nextDepth_of_isSign {ch : Char} {l : Lexeme} (h : Cursor.isSign ch l) (depth : Nat) :
    nextDepth depth l = depth := by
  simp only [Cursor.isSign, Bool.and_eq_true, Bool.or_eq_true, beq_iff_eq] at h
  rcases h.2 with (hkind | hkind) | hkind <;> simp [nextDepth, hkind]

/-! ### The parts that come together -/

/-- Which parts come with which others: a host with a protocol, a user name and a password in
front of a host only, and behind a host or a path no part without those in front of it. -/
structure Together (given : Component → Prop) : Prop where
  hostname_iff : given .hostname ↔ given .protocol
  hostname_of_port : given .port → given .hostname
  protocol_of_username : given .username → given .protocol
  username_of_password : given .password → given .username
  search_of_hash : given .pathname → given .hash → given .search
  pathname_of_search : given .protocol → given .search → given .pathname
  pathname_of_hash : given .protocol → given .hash → given .pathname
  exists_of_not_protocol : ¬given .protocol → given .pathname ∨ given .search ∨ given .hash

namespace State

/-- The cursor does not go back twice. -/
theorem retries_of_mem_retries {s next : State} (h : next ∈ s.retries) : next.retries = [] := by
  have hall : ∀ e ∈ s.retries, e.retries = [] := by cases s <;> decide
  exact hall _ h

/-- Only a password is awaited to end like what is in front of it. -/
theorem awaited_of_mem_exits {s next : State} {signs : Text} {ch : Char}
    (h : (next, signs) ∈ s.exits) (hcomponent : next.component?.isSome)
    (hch : ch ∈ next.awaited?) : ch ∈ s.awaited? ∧ signs = [':'] ∧ ch ≠ ':' := by
  have hall : ∀ e ∈ s.exits, e.1.component?.isSome →
      e.1.awaited?.all fun ch => decide (s.awaited? = some ch ∧ e.2 = [':'] ∧ ch ≠ ':') := by
    cases s <;> decide
  exact of_decide_eq_true ((Option.all_eq_true _ _).1 (hall _ h hcomponent) ch hch)

/-- The component is implied when one state is left for another. -/
def implies (s next : State) : Component → Bool
  | .hostname => s.precedesHost && next ∈ [port, pathname, search, hash]
  | .pathname => (s.precedesHost || s ∈ [hostname, port]) && next ∈ [search, hash]
  | .search => (s.precedesHost || s ∈ [hostname, port, pathname]) && next = hash
  | _ => false

/-- Only in front of what follows a host something is implied, and nothing is at the start. -/
theorem implies_eq_false {s next : State} (h : s = start ∨ next ∉ [port, pathname, search, hash])
    (comp : Component) : s.implies next comp = false := by
  rcases h with rfl | h
  · cases comp <;> simp [implies, precedesHost]
  · cases comp <;> simp_all [implies]

/-- The parts that are there in a state, with the one that is gathered. -/
def Fits : State → (Component → Prop) → Prop
  | start, given => ∀ comp, ¬given comp
  | protocol, given | authority, given => ∀ comp, given comp ↔ comp = .protocol
  | username, given => ∀ comp, given comp ↔ comp ∈ [.protocol, .username]
  | password, given => ∀ comp, given comp ↔ comp ∈ [.protocol, .username, .password]
  | _, given => Together given

variable {s next : State} {signs : Text} {given : Component → Prop}

/-- Behind the host, an exit adds a part together with those in front of it. -/
theorem together_of_exit (h : Together given) (hcomp : ∀ comp ∈ s.component?, given comp)
    (hs : s ∈ [hostname, port, pathname, search]) (hexit : (next, signs) ∈ s.exits) :
    Together fun comp => (given comp ∨ s.implies next comp) ∨ next.component? = some comp := by
  obtain ⟨hhostname, hport, husername, hpassword, hhash, hsearch, htail, hrelative⟩ := h
  cases s <;> simp only [exits, List.mem_cons, List.not_mem_nil, Prod.mk.injEq, or_false] at hexit
  case hostname =>
    have hgiven := hcomp .hostname rfl
    rcases hexit with ⟨rfl, -⟩ | ⟨rfl, -⟩ | ⟨rfl, -⟩ | ⟨rfl, -⟩ <;> constructor <;>
      grind [implies, precedesHost, component?]
  case port =>
    have hgiven := hcomp .port rfl
    rcases hexit with ⟨rfl, -⟩ | ⟨rfl, -⟩ | ⟨rfl, -⟩ <;> constructor <;>
      grind [implies, precedesHost, component?]
  case pathname =>
    have hgiven := hcomp .pathname rfl
    rcases hexit with ⟨rfl, -⟩ | ⟨rfl, -⟩ <;> constructor <;>
      grind [implies, precedesHost, component?]
  case search =>
    have hgiven := hcomp .search rfl
    obtain ⟨rfl, -⟩ := hexit
    constructor <;> grind [implies, precedesHost, component?]
  all_goals simp at hs

/-- An exit adds the next component and those that are implied. -/
theorem Fits.exit (h : s.Fits given) (hcomp : ∀ comp ∈ s.component?, given comp)
    (hexit : (next, signs) ∈ s.exits) :
    next.Fits fun comp => (given comp ∨ s.implies next comp) ∨ next.component? = some comp := by
  by_cases hs : s ∈ [hostname, port, pathname, search]
  · have htogether : Together given := by cases s <;> first | exact h | simp at hs
    have hnext : next ∈ [port, pathname, search, hash] := by
      have hall : ∀ e ∈ s.exits, e.1 ∈ [port, pathname, search, hash] := by
        cases s <;> first | decide | simp at hs
      exact hall _ hexit
    have hafter := together_of_exit htogether hcomp hs hexit
    cases next <;> first | exact hafter | simp at hnext
  · cases s <;> simp only [exits, List.mem_cons, List.not_mem_nil, Prod.mk.injEq, or_false] at hexit
    case start =>
      rcases hexit with ⟨rfl, -⟩ | ⟨rfl, -⟩ | ⟨rfl, -⟩ <;> constructor <;>
        simp [h _, implies, precedesHost, component?]
    case protocol =>
      rcases hexit with ⟨rfl, -⟩ | ⟨rfl, -⟩ | ⟨rfl, -⟩
      · simpa [Fits, implies_eq_false, component?] using h
      · simpa [Fits, implies_eq_false, component?] using h
      · constructor <;> simp [h _, implies, precedesHost, component?]
    case username =>
      rcases hexit with ⟨rfl, -⟩ | ⟨rfl, -⟩
      · simp [Fits, h _, implies_eq_false, component?, or_assoc, eq_comm]
      · constructor <;> simp [h _, implies_eq_false, component?]
    case password =>
      obtain ⟨rfl, -⟩ := hexit
      constructor <;> simp [h _, implies_eq_false, component?]
    all_goals simp at hs

/-- Where the cursor goes back, one component is added. -/
theorem Fits.retry (h : s.Fits given) (hnext : next ∈ s.retries) :
    next.Fits fun comp => given comp ∨ next.component? = some comp := by
  cases s <;> simp only [retries, List.mem_cons, List.not_mem_nil, or_false] at hnext
  case start =>
    subst hnext
    simp [Fits, h _, component?, eq_comm]
  case authority =>
    rcases hnext with rfl | rfl
    · simp [Fits, h _, component?, eq_comm]
    · constructor <;> simp [h _, component?]

/-- Where no sign is awaited the parts come together. -/
theorem Fits.together (h : s.Fits given) (hcomponent : s.component?.isSome)
    (hawaited : s.awaited? = none) : Together given := by
  cases s <;> simp_all [Fits, component?, awaited?]

end State

namespace Cursor

variable {c c' : Cursor} {ls : List Lexeme} {comp : Component}

/-- The component has a value or is being gathered. -/
def Gives (c : Cursor) (comp : Component) : Prop :=
  (c.values.get comp).isSome ∨ c.state.component? = some comp

/-- What is implied is there. -/
theorem isSome_get_implied (c : Cursor) (next : State) (vs : Components (Option Text))
    (comp : Component) :
    ((c.implied next vs).get comp).isSome ↔ (vs.get comp).isSome ∨ c.state.implies next comp := by
  have hfill (when : Bool) (comp' : Component) (v : Text) (vs : Components (Option Text)) :
      ((if when && (vs.get comp').isNone then vs.set comp' (some v) else vs).get comp).isSome ↔
        (vs.get comp).isSome ∨ when ∧ comp' = comp := by
    by_cases hcomp : comp' = comp
    · subst hcomp
      cases when <;> cases h : vs.get comp' <;> simp [h]
    · split <;> simp [hcomp, Components.get_set_of_ne]
  simp only [implied, hfill]
  cases comp <;> simp [State.implies, or_assoc]

/-- What is gathered is there once it is written. -/
theorem isSome_get_writtenValues (c : Cursor) (comp : Component) :
    (c.writtenValues.get comp).isSome ↔ c.Gives comp := by
  rw [writtenValues, Gives]
  cases hcomp : c.state.component? with
  | none => simp
  | some comp' =>
      by_cases heq : comp' = comp
      · simp [heq]
      · simp [heq, Components.get_set_of_ne]

/-- A move out of a state keeps what is there and adds what is implied. -/
theorem isSome_get_enter (c : Cursor) (next : State) (skip : Nat) (comp : Component) :
    ((c.enter next skip).values.get comp).isSome ↔ c.Gives comp ∨ c.state.implies next comp := by
  rw [← isSome_get_writtenValues, enter]
  dsimp only
  split
  · rename_i h
    rw [State.implies_eq_false (h.imp_right fun hnext => by simp [hnext])]
    exact (or_iff_left Bool.false_ne_true).symm
  · exact isSome_get_implied c next c.writtenValues comp

/-- Behind an exit there are the parts from before, those that are implied, and the next one. -/
theorem gives_enter (c : Cursor) (next : State) (skip : Nat) :
    (c.enter next skip).Gives =
      fun comp => (c.Gives comp ∨ c.state.implies next comp) ∨ next.component? = some comp := by
  funext comp
  rw [Gives, isSome_get_enter]
  rfl

/-! ### Along a run -/

/-- Where the cursor may go back, the braces that are open are those of what is gathered; in the
state of a component, the sign that is awaited is ahead. -/
structure Awaits (c : Cursor) : Prop where
  depth_eq : c.state.retries ≠ [] → c.depth = c.gathered.reverse.foldl nextDepth 0
  ahead : c.state.component?.isSome → ∀ ch ∈ c.state.awaited?, Ahead ch c.depth c.rest

theorem awaits_initial (ls : List Lexeme) : (initial ls).Awaits where
  depth_eq _ := rfl
  ahead h := by cases h

/-- **Moves keep the sign ahead that a state waits for.** -/
theorem Awaits.of_move (h : Awaits c) (hmove : Move c c') : Awaits c' := by
  cases hmove with
  | @gather l rest brackets hrest hfinish hsign =>
      refine ⟨fun hs => ?_, fun hs ch hch => ?_⟩
      · have hdepth := h.depth_eq hs
        simp [hdepth, List.foldl_append]
      · have hahead := h.ahead hs ch hch
        rw [hrest] at hahead
        exact hahead.tail fun hdepth => hsign hdepth ch hch
  | @rewind next hnext hsign =>
      refine ⟨fun hs => ?_, fun hs ch hch => ?_⟩
      · exact absurd (State.retries_of_mem_retries hnext) hs
      · obtain ⟨hdepth, l, hl, hsign⟩ := hsign ch hch
        obtain ⟨rest, hrest⟩ := List.head?_eq_some_iff.1 hl
        have hretries : c.state.retries ≠ [] := List.ne_nil_of_mem hnext
        refine ⟨c.gathered.reverse, l, rest, ?_, ?_, hsign⟩
        · exact congrArg (c.gathered.reverse ++ ·) hrest
        · exact (congrArg (c.gathered.reverse.foldl nextDepth) hdepth).trans
            ((h.depth_eq hretries).symm.trans hdepth)
  | @begin next signs skipped behind _ hexit =>
      have hall : ∀ e ∈ State.start.exits, e.1.retries = [] ∧ e.1.awaited? = none := by decide
      obtain ⟨hretries, hawaited⟩ := hall _ hexit
      refine ⟨fun hs => absurd hretries hs, fun _ ch hch => ?_⟩
      cases hawaited.symm.trans hch
  | @leave next signs skipped behind special hcomponent hdepth hexit hrest _ hsigns =>
      refine ⟨fun _ => hdepth, fun hs ch hch => ?_⟩
      obtain ⟨hawaited, rfl, hne⟩ := State.awaited_of_mem_exits hexit hs hch
      obtain ⟨l, _, hl, hnil, rfl⟩ := List.forall₂_cons_right_iff.1 hsigns
      cases hnil
      have hcolon : isSign ':' l := hl.isSign (by decide)
      have hahead := h.ahead hcomponent ch hawaited
      rw [hrest] at hahead
      have hbehind := hahead.tail fun _ => by simp [isSign, hl.value_eq, hne.symm]
      rw [nextDepth_of_isSign hcolon,
        ← rest_enter (c := { c with special }) hrest hsigns] at hbehind
      exact hbehind
  | finish => exact ⟨fun hs => absurd rfl hs, fun hs => by cases hs⟩

/-- What a state says about the parts that are there. -/
theorem fits_of_move (h : Sound ls c) (hawaits : Awaits c) (hfits : c.state.Fits c.Gives)
    (hmove : Move c c') : c'.state.Fits c'.Gives := by
  cases hmove with
  | gather => exact hfits
  | @rewind next hnext hsign =>
      have hgives : (c.rewind next).Gives =
          fun comp => c.Gives comp ∨ next.component? = some comp := by
        have hcomp : c.state.component? = none := by
          cases hs : c.state <;> simp_all [State.retries, State.component?]
        funext comp
        simp [Gives, hcomp, rewind]
      exact hgives ▸ hfits.retry hnext
  | @begin next signs skipped behind hs hexit =>
      have hstart : (c.rewind .start).state.Fits (c.rewind .start).Gives := by
        have hgives : (c.rewind .start).Gives = c.Gives := by
          funext comp
          simp [Gives, hs, rewind]
        rw [hs] at hfits
        exact hgives ▸ hfits
      exact gives_enter (c.rewind .start) next _ ▸ hstart.exit (fun _ => .inr) hexit
  | @leave next signs skipped behind special hcomponent hdepth hexit =>
      have hexit' : next.Fits fun comp => ({ c with special }.Gives comp ∨
          c.state.implies next comp) ∨ next.component? = some comp :=
        hfits.exit (fun _ => .inr) hexit
      exact gives_enter { c with special } next _ ▸ hexit'
  | @finish l rest hcomponent hrest hfinish =>
      have hawaited : c.state.awaited? = none := by
        obtain ⟨_, hplaced⟩ := h.placed_rest
        obtain ⟨-, rfl⟩ := (hrest ▸ hplaced).eq_finish hfinish
        refine Option.eq_none_iff_forall_ne_some.2 fun ch hch => ?_
        exact (hrest ▸ hawaits.ahead hcomponent ch hch).ne_finish hfinish
      have hgives : (c.enter .done 0).Gives = c.Gives := by
        rw [gives_enter]
        funext comp
        simp [State.implies_eq_false, State.component?]
      exact hgives ▸ hfits.together hcomponent hawaited

/-- **A run keeps what the states say about the parts that are there.** -/
theorem fits_of_run {fuel : Nat} (h : Sound ls c) (hawaits : Awaits c)
    (hfits : c.state.Fits c.Gives) (hrun : run fuel c = .ok c') : c'.state.Fits c'.Gives := by
  induction fuel generalizing c with
  | zero =>
      cases hrun
      exact hfits
  | succ fuel ih =>
      rw [run] at hrun
      split at hrun
      · cases hrun
        exact hfits
      · rename_i hdone
        obtain ⟨c₁, hstep, hrun⟩ := bind_eq_ok.1 hrun
        have hmove := h.move hdone hstep
        exact ih (h.of_move hmove) (hawaits.of_move hmove) (fits_of_move h hawaits hfits hmove) hrun

/-- The result has what the cursor has, and a port with each host. -/
theorem isSome_get_result (c : Cursor) (comp : Component) :
    (c.result.get comp).isSome ↔
      (c.values.get comp).isSome ∨ comp = .port ∧ (c.values.get .hostname).isSome := by
  rw [result]
  split
  · rename_i h
    cases comp <;> simp [Components.get, h.1]
  · rename_i h
    cases comp <;> simp_all [Components.get, Option.isSome_iff_ne_none]

end Cursor

/-! ### The parts of a pattern -/

/-- The values that splitting gives come together, with a port beside each host. -/
theorem splitText_together {t : Text} {values : Components (Option Text)}
    (h : splitText t = .ok values) :
    Together (fun comp => (values.get comp).isSome) ∧
      ((values.get .hostname).isSome ↔ (values.get .port).isSome) := by
  obtain ⟨ls, hls⟩ := exists_lexFrom_lenient 0 t
  have hlex : lex .lenient t = .ok ls := hls
  obtain ⟨hplaced, -⟩ := placed_of_lexFrom hls
  have hsound := Cursor.sound_initial hplaced
  rw [splitText, hlex] at h
  obtain ⟨c, hrun, ⟨⟩⟩ := bind_eq_ok.1 h
  have hdone := hsound.done_of_run (Cursor.potential_initial ls).le hrun
  have hinitial : (Cursor.initial ls).state.Fits (Cursor.initial ls).Gives := by
    intro comp
    simp [Cursor.Gives, Cursor.initial, State.component?]
  have htogether : Together c.Gives := by
    have hfits := Cursor.fits_of_run hsound (Cursor.awaits_initial ls) hinitial hrun
    rwa [hdone] at hfits
  have hget (comp : Component) :
      (c.result.get comp).isSome ↔ c.Gives comp ∨ comp = .port ∧ c.Gives .hostname := by
    simp [Cursor.isSome_get_result, Cursor.Gives, hdone, State.component?]
  have hport := or_iff_right_of_imp htogether.hostname_of_port
  obtain ⟨hhostname, -, husername, hpassword, hhash, hsearch, htail, hrelative⟩ := htogether
  exact ⟨⟨by simpa [hget], by simp [hget, hport], by simpa [hget], by simpa [hget],
    by simpa [hget], by simpa [hget], by simpa [hget], by simpa [hget]⟩, by simp [hget, hport]⟩

/-- **Which parts come with which others when a pattern is split.** -/
theorem split_given {t : Text} {base : Option Text} {f : Fields} (h : split t base = .ok f) :
    ((f.get? .protocol).isSome ↔ (f.get? .hostname).isSome) ∧
      ((f.get? .hostname).isSome ↔ (f.get? .port).isSome) ∧
      ((f.get? .username).isSome → (f.get? .protocol).isSome) ∧
      ((f.get? .password).isSome → (f.get? .username).isSome) ∧
      ((f.get? .pathname).isSome → (f.get? .hash).isSome → (f.get? .search).isSome) ∧
      ((f.get? .protocol).isSome →
        ((f.get? .search).isSome → (f.get? .pathname).isSome) ∧
          ((f.get? .hash).isSome → (f.get? .pathname).isSome ∧ (f.get? .search).isSome)) ∧
      (f.get? .protocol = none →
        ((f.get? .pathname).isSome ∨ (f.get? .search).isSome ∨ (f.get? .hash).isSome) ∧
          f.get? .username = none ∧ f.get? .password = none) := by
  rw [split] at h
  obtain ⟨values, hvalues, h⟩ := bind_eq_ok.1 h
  split at h
  · cases h
  · cases h
    obtain ⟨htogether, hport⟩ := splitText_together hvalues
    refine ⟨htogether.hostname_iff.symm, hport, htogether.protocol_of_username,
      htogether.username_of_password, htogether.search_of_hash, fun hprotocol =>
        ⟨htogether.pathname_of_search hprotocol, fun hhash => ?_⟩, fun hprotocol => ?_⟩
    · have hpathname := htogether.pathname_of_hash hprotocol hhash
      exact ⟨hpathname, htogether.search_of_hash hpathname hhash⟩
    · have hprotocol' : ¬(values.get .protocol).isSome := by simpa [get?] using hprotocol
      have husername : ¬(values.get .username).isSome :=
        mt htogether.protocol_of_username hprotocol'
      exact ⟨htogether.exists_of_not_protocol hprotocol', by simpa [get?] using husername,
        by simpa [get?] using mt htogether.username_of_password husername⟩

/-- A fragment behind a query and a host. The path and the port are implied. -/
theorem split_given_fragment :
    ∃ f, split "http://h?q#f".toList none = .ok f ∧ (f.get? .hash).isSome ∧
      (f.get? .pathname).isSome ∧ (f.get? .search).isSome ∧ (f.get? .port).isSome := by
  have h : split "http://h?q#f".toList none = .ok
      ⟨{ protocol := some "http".toList, username := none, password := none,
         hostname := some "h".toList, port := some [], pathname := some "/".toList,
         search := some "q".toList, hash := some "f".toList }, none⟩ := by
    decide +kernel
  obtain ⟨hhostname, hport, -, -, -, habsolute, -⟩ := split_given h
  obtain ⟨-, hhash⟩ := habsolute rfl
  exact ⟨_, h, rfl, (hhash rfl).1, (hhash rfl).2, hport.1 (hhostname.1 rfl)⟩

end UrlMatch.Fields
