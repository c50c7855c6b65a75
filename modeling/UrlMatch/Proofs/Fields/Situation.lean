import UrlMatch.Proofs.Fields.Runs

/-!
# What a cursor knows of the text

As long as a cursor stands outside of braces and brackets, its next steps are determined by its
state, by the text that it has gathered and by the text ahead of it: its `Situation`. One situation
leads to another if every cursor in the first one comes to the second one. What happens at plain
text and at each sign is said in these terms, so that the way through a whole text is the
concatenation of short ones.

## Main results

* `Situation.leads_text`: text without signs is gathered.
* `Situation.splitText_of_leads`: a situation that leads to the end tells what splitting gives.
-/

namespace UrlMatch.Fields

open Pattern

/-! ### First lexemes -/

/-- The lexeme is a character that stands for itself, plainly, behind a backslash or out of
place. -/
def IsQuiet (l : Lexeme) : Prop := l.kind = .char ∨ l.kind = .escapedChar ∨ l.kind = .invalid

/-- Lenient reading takes `w` from the front of `w ++ t` as a character that stands for itself. -/
def StandsFor (w : Text) (ch : Char) (t : Text) : Prop :=
  ∀ n ls, lexFrom .lenient n (w ++ t) = .ok ls →
    ∃ l behind m, ls = l :: behind ∧ IsQuiet l ∧ l.value = [ch] ∧ l.written = w ∧
      lexFrom .lenient m t = .ok behind

/-- A character without a meaning stands for itself. -/
theorem standsFor_char {ch : Char} (h : isSpecial ch = false) (t : Text) : StandsFor [ch] ch t := by
  intro n ls hls
  rw [List.singleton_append, lexFrom_cons (readLexeme_char h n t)] at hls
  obtain ⟨behind, hbehind, ⟨⟩⟩ := bind_eq_ok.1 hls
  exact ⟨_, behind, _, rfl, .inl rfl, rfl, rfl, hbehind⟩

/-- A colon in front of no name stands for itself. -/
theorem standsFor_colon {t : Text} (h : takeName t = []) : StandsFor [':'] ':' t := by
  intro n ls hls
  have hread : readLexeme n ':' t = .error (.missingName n) := by simp [readLexeme, h]
  rw [List.singleton_append, lexFrom_of_error hread] at hls
  obtain ⟨behind, hbehind, ⟨⟩⟩ := bind_eq_ok.1 hls
  exact ⟨_, behind, _, rfl, .inr (.inr rfl), rfl, rfl, hbehind⟩

/-- A character behind a backslash stands for itself. -/
theorem standsFor_escaped (ch : Char) (t : Text) : StandsFor ['\\', ch] ch t := by
  intro n ls hls
  have hread : readLexeme n '\\' (ch :: t) = .ok ⟨.escapedChar, n, [ch]⟩ := rfl
  have hcons : ['\\', ch] ++ t = '\\' :: ch :: t := rfl
  rw [hcons, lexFrom_cons hread] at hls
  obtain ⟨behind, hbehind, ⟨⟩⟩ := bind_eq_ok.1 hls
  exact ⟨_, behind, _, rfl, .inr (.inl rfl), rfl, rfl, hbehind⟩

/-- A question mark is read as a modifier. -/
theorem lexFrom_query {n : Nat} {t : Text} {ls : List Lexeme}
    (h : lexFrom .lenient n ('?' :: t) = .ok ls) :
    ∃ behind m, ls = ⟨.modifier, n, ['?']⟩ :: behind ∧ lexFrom .lenient m t = .ok behind := by
  have hread : readLexeme n '?' t = .ok ⟨.modifier, n, ['?']⟩ := rfl
  rw [lexFrom_cons hread] at h
  obtain ⟨behind, hbehind, ⟨⟩⟩ := bind_eq_ok.1 h
  exact ⟨behind, _, rfl, hbehind⟩

/-! ### Situations -/

/-- What the next steps of a cursor outside of braces and brackets depend on. -/
structure Situation where
  state : State
  special : Bool
  values : Components (Option Text)
  gathered : Text
  ahead : Text

/-- The cursor is in the situation `a`. Up to the search nothing is passed that a question mark
could modify. -/
structure Cursor.IsIn (c : Cursor) (a : Situation) : Prop where
  state : c.state = a.state
  special : c.special = a.special
  values : c.values = a.values
  depth : c.depth = 0
  brackets : c.brackets = 0
  gathered : c.text = a.gathered
  pending : ∃ n, lexFrom .lenient n (a.gathered ++ a.ahead) = .ok c.pending
  ahead : ∃ n, lexFrom .lenient n a.ahead = .ok c.rest
  quiet : a.state.rank < State.search.rank → ∀ l ∈ c.gathered ++ c.before, IsQuiet l

namespace Situation

/-- Every cursor in the first situation comes to the second one. -/
def Leads (a b : Situation) : Prop :=
  ∀ c : Cursor, c.IsIn a → ∃ c', c.Goes c' ∧ c'.IsIn b

variable {a b : Situation}

theorem Leads.trans {d : Situation} (h : Leads a b) (h' : Leads b d) : Leads a d := by
  intro c hc
  obtain ⟨c₁, hgoes, hc₁⟩ := h c hc
  obtain ⟨c₂, hgoes', hc₂⟩ := h' c₁ hc₁
  exact ⟨c₂, hgoes.trans hgoes', hc₂⟩

/-- The values, with what is gathered among them. -/
def written (a : Situation) : Components (Option Text) :=
  match a.state.component? with
  | some comp => a.values.set comp (some a.gathered)
  | none => a.values

/-- The values behind another state. -/
def valuesBehind (a : Situation) (next : State) : Components (Option Text) :=
  if a.state = .start ∨ next = .done then a.written
  else { Cursor.initial [] with state := a.state, special := a.special }.implied next a.written

end Situation

/-! ### Signs -/

namespace State

/-- The characters at which a cursor does something else than to gather. -/
def signs : State → Text
  | start | protocol => [':']
  | authority => ['@', '/', '?', '#']
  | username => [':', '@']
  | password => ['@']
  | hostname => ['[', ']', ':', '/', '?', '#']
  | port => ['/', '?', '#']
  | pathname => ['?', '#']
  | search => ['#']
  | hash | done => []

end State

namespace Cursor

variable {c : Cursor} {l : Lexeme} {behind : List Lexeme} {ch : Char} {a : Situation}

/-- A character that stands for itself is a sign of itself only. -/
theorem isSign_of_isQuiet (hl : IsQuiet l) (hvalue : l.value = [ch]) (x : Char) :
    isSign x l = decide (ch = x) := by
  have hkind : (l.kind == .char || l.kind == .escapedChar || l.kind == .invalid) = true := by
    rcases hl with h | h | h <;> simp [h]
  rw [isSign, hkind, hvalue]
  by_cases hx : ch = x <;> simp [hx]

theorem sees_of_isQuiet (hrest : c.rest = l :: behind) (hl : IsQuiet l)
    (hvalue : l.value = [ch]) (x : Char) : c.sees x = decide (ch = x) := by
  rw [sees, hrest, List.head?_cons, Option.any_some, isSign_of_isQuiet hl hvalue]

theorem seesQuery_of_isQuiet (hrest : c.rest = l :: behind) (hl : IsQuiet l)
    (hvalue : l.value = [ch]) : c.seesQuery = decide (ch = '?') := by
  have hsees := sees_of_isQuiet hrest hl hvalue '?'
  rw [seesQuery, hsees, hrest, List.head?_cons, Option.any_some, hvalue]
  by_cases hch : ch = '?' <;> simp [hch]

/-- A step at a character that stands for itself is a look at it. -/
theorem step_of_isQuiet (hrest : c.rest = l :: behind) (hl : IsQuiet l)
    (hdepth : c.depth = 0) : c.step = c.look := by
  have hfinish : l.kind ≠ .finish := by rcases hl with h | h | h <;> simp [h]
  have hopening : l.kind ≠ .opening := by rcases hl with h | h | h <;> simp [h]
  rw [step_cons hrest, if_neg hfinish, if_neg hopening, if_pos hdepth]

/-- A character that is no sign is gathered. -/
theorem look_of_notMem_signs (hrest : c.rest = l :: behind) (hl : IsQuiet l)
    (hvalue : l.value = [ch]) (hch : ch ∉ c.state.signs) : c.look = .ok c.advance := by
  have hsees := sees_of_isQuiet hrest hl hvalue
  have hquery := seesQuery_of_isQuiet hrest hl hvalue
  rw [look]
  cases hstate : c.state <;> simp_all [State.signs, enterPath, enterTail]

/-! ### Steps between situations -/

/-- Behind a character that is gathered. -/
theorem IsIn.advance {w t : Text} (h : c.IsIn a) (hahead : a.ahead = w ++ t)
    (hrest : c.rest = l :: behind) (hl : IsQuiet l) (hwritten : l.written = w) {m : Nat}
    (hbehind : lexFrom .lenient m t = .ok behind) :
    c.advance.IsIn { a with gathered := a.gathered ++ w, ahead := t } := by
  have hadvance : c.advance = { c with gathered := l :: c.gathered, rest := behind } := by
    rw [Cursor.advance, hrest]
  obtain ⟨n, hpending⟩ := h.pending
  rw [hadvance]
  refine ⟨h.state, h.special, h.values, h.depth, h.brackets, ?_, ⟨n, ?_⟩, ⟨m, hbehind⟩,
    fun hrank => ?_⟩
  · rw [← h.gathered, ← hwritten]
    simp [text]
  · have hsame : c.pending = (l :: c.gathered).reverse ++ behind := by simp [Cursor.pending, hrest]
    rw [List.append_assoc, ← hahead, hpending, hsame]
    rfl
  · rw [List.cons_append]
    exact List.forall_mem_cons.2 ⟨hl, h.quiet hrank⟩

/-- Where gathering began. -/
theorem IsIn.rewind (h : c.IsIn a) (hrank : a.state.rank < State.search.rank) (next : State) :
    (c.rewind next).IsIn ⟨next, a.special, a.values, [], a.gathered ++ a.ahead⟩ := by
  obtain ⟨n, hpending⟩ := h.pending
  refine ⟨rfl, h.special, h.values, h.depth, h.brackets, rfl, ⟨n, hpending⟩, ⟨n, hpending⟩,
    fun _ l hl => ?_⟩
  exact h.quiet hrank l (List.mem_append_right _ hl)

/-- What is implied depends on the state and on the kind of scheme. -/
theorem implied_congr {c' : Cursor} (hstate : c.state = c'.state)
    (hspecial : c.special = c'.special) (next : State) (vs : Components (Option Text)) :
    c.implied next vs = c'.implied next vs := by
  simp only [implied, hstate, hspecial]

/-- Behind the lexemes at which a state is left. -/
theorem IsIn.enter {skipped : List Lexeme} {t : Text} {m : Nat} {next : State} (h : c.IsIn a)
    (hrest : c.rest = skipped ++ behind) (hbehind : lexFrom .lenient m t = .ok behind)
    (hrank : a.state.rank ≤ next.rank)
    (hquiet : next.rank < State.search.rank → ∀ l ∈ skipped, IsQuiet l) :
    (c.enter next skipped.length).IsIn ⟨next, a.special, a.valuesBehind next, [], t⟩ := by
  have hbehind' : (c.enter next skipped.length).rest = behind := by
    rw [Cursor.enter, hrest, List.drop_left]
  refine ⟨rfl, h.special, ?_, h.depth, h.brackets, rfl, ⟨m, ?_⟩, ⟨m, hbehind' ▸ hbehind⟩,
    fun hnext l hl => ?_⟩
  · have himplied : ∀ vs, c.implied next vs =
        { initial [] with state := a.state, special := a.special }.implied next vs :=
      implied_congr h.state h.special next
    simp only [Cursor.enter, himplied, h.state, h.values, h.gathered]
    rfl
  · have hpending : (c.enter next skipped.length).pending = behind := hbehind'
    rw [hpending]
    exact hbehind
  · have hmem : l ∈ skipped ∨ l ∈ c.gathered ++ c.before := by
      simpa [Cursor.enter, hrest] using hl
    rcases hmem with hl | hl
    · exact hquiet hnext l hl
    · exact h.quiet (Nat.lt_of_le_of_lt hrank hnext) l hl

/-- Behind characters that stand for themselves a question mark is the sign of a query. -/
theorem IsIn.query {t : Text} (h : c.IsIn a) (hahead : a.ahead = '?' :: t)
    (hrank : a.state.rank < State.search.rank) :
    ∃ l behind m, c.rest = l :: behind ∧ lexFrom .lenient m t = .ok behind ∧ c.step = c.look ∧
      (∀ x, c.sees x = false) ∧ c.seesQuery := by
  obtain ⟨n, hlex⟩ := h.ahead
  rw [hahead] at hlex
  obtain ⟨behind, m, hrest, hbehind⟩ := lexFrom_query hlex
  refine ⟨_, behind, m, hrest, hbehind, ?_, fun x => ?_, ?_⟩
  · rw [step_cons hrest, if_neg (by simp), if_neg (by simp), if_pos h.depth]
  · simp [sees, hrest, isSign]
  · have hprevious := h.quiet hrank
    rw [seesQuery, hrest]
    cases hfront : c.gathered ++ c.before with
    | nil => simp
    | cons l front =>
        rcases hprevious l (hfront ▸ List.mem_cons_self) with hl | hl | hl <;> simp [hl]

end Cursor

namespace Situation

variable {q : Bool} {r : Components (Option Text)} {g t w : Text} {s next : State} {ch : Char}

/-- A character that is no sign is gathered. -/
theorem leads_gather (hstands : StandsFor w ch t) (hs : s ≠ .done) (hch : ch ∉ s.signs) :
    Leads ⟨s, q, r, g, w ++ t⟩ ⟨s, q, r, g ++ w, t⟩ := by
  intro c hc
  obtain ⟨n, hahead⟩ := hc.ahead
  obtain ⟨l, behind, m, hrest, hl, hvalue, hwritten, hbehind⟩ := hstands n _ hahead
  have hstep : c.step = .ok c.advance :=
    (Cursor.step_of_isQuiet hrest hl hc.depth).trans
      (Cursor.look_of_notMem_signs hrest hl hvalue (hc.state.symm ▸ hch))
  exact ⟨_, .single ⟨hc.state.symm ▸ hs, hstep⟩, hc.advance rfl hrest hl hwritten hbehind⟩

/-- **Text without signs is gathered.** -/
theorem leads_text {v : Text} (hs : s ≠ .done)
    (hv : ∀ ch ∈ v, isSpecial ch = false ∧ ch ∉ s.signs) :
    Leads ⟨s, q, r, g, v ++ t⟩ ⟨s, q, r, g ++ v, t⟩ := by
  induction v generalizing g with
  | nil =>
      rw [List.append_nil, List.nil_append]
      exact fun c hc => ⟨c, .refl, hc⟩
  | cons ch v ih =>
      obtain ⟨⟨hspecial, hch⟩, hv⟩ := List.forall_mem_cons.1 hv
      have hfirst := leads_gather (q := q) (r := r) (g := g)
        (standsFor_char hspecial (v ++ t)) hs hch
      have hrest := ih (g := g ++ [ch]) hv
      rw [List.append_assoc] at hrest
      exact hfirst.trans hrest

/-- At a sign the cursor does what its state says. -/
theorem leads_of_look {b : Situation} (hstands : StandsFor w ch t) (hs : s ≠ .done)
    (hlook : ∀ (c : Cursor) (l : Lexeme) (behind : List Lexeme) (m : Nat),
      c.IsIn ⟨s, q, r, g, w ++ t⟩ → c.rest = l :: behind → IsQuiet l →
      l.value = [ch] → lexFrom .lenient m t = .ok behind →
      ∃ c', c.look = .ok c' ∧ c'.IsIn b) :
    Leads ⟨s, q, r, g, w ++ t⟩ b := by
  intro c hc
  obtain ⟨n, hahead⟩ := hc.ahead
  obtain ⟨l, behind, m, hrest, hl, hvalue, -, hbehind⟩ := hstands n _ hahead
  obtain ⟨c', hlook, hc'⟩ := hlook c l behind m hc hrest hl hvalue hbehind
  exact ⟨c', .single ⟨hc.state.symm ▸ hs, (Cursor.step_of_isQuiet hrest hl hc.depth).trans hlook⟩,
    hc'⟩

/-- The colon behind a protocol is found from the start. -/
theorem leads_start (hstands : StandsFor w ':' t) :
    Leads ⟨.start, q, r, g, w ++ t⟩ ⟨.protocol, q, r, [], g ++ (w ++ t)⟩ := by
  refine leads_of_look hstands (by simp) fun c l behind m hc hrest hl hvalue hbehind => ?_
  have hsees := Cursor.sees_of_isQuiet hrest hl hvalue ':'
  refine ⟨_, ?_, hc.rewind (by simp [State.rank]) .protocol⟩
  simp [Cursor.look, hc.state, hsees]

/-- The sign behind a user is found from the authority. -/
theorem leads_authority_user (hstands : StandsFor w '@' t) :
    Leads ⟨.authority, q, r, g, w ++ t⟩ ⟨.username, q, r, [], g ++ (w ++ t)⟩ := by
  refine leads_of_look hstands (by simp) fun c l behind m hc hrest hl hvalue hbehind => ?_
  have hsees := Cursor.sees_of_isQuiet hrest hl hvalue '@'
  refine ⟨_, ?_, hc.rewind (by simp [State.rank]) .username⟩
  simp [Cursor.look, hc.state, hsees]

/-- At a sign of its own a state is left for the next one. -/
theorem leads_enter (hstands : StandsFor w ch t) (hs : s ≠ .done) (hrank : s.rank ≤ next.rank)
    (hlook : ∀ c : Cursor, c.state = s → c.brackets = 0 → (∀ x, c.sees x = decide (ch = x)) →
      c.seesQuery = decide (ch = '?') → c.look = .ok (c.enter next 1)) :
    Leads ⟨s, q, r, g, w ++ t⟩
      ⟨next, q, valuesBehind ⟨s, q, r, g, w ++ t⟩ next, [], t⟩ := by
  refine leads_of_look hstands hs fun c l behind m hc hrest hl hvalue hbehind => ?_
  exact ⟨_, hlook c hc.state hc.brackets (Cursor.sees_of_isQuiet hrest hl hvalue)
    (Cursor.seesQuery_of_isQuiet hrest hl hvalue),
    hc.enter (show c.rest = [l] ++ behind from hrest) hbehind hrank fun _ =>
      List.forall_mem_singleton.2 hl⟩

/-- The colon between a user and a password. -/
theorem leads_username_password (hstands : StandsFor w ':' t) :
    Leads ⟨.username, q, r, g, w ++ t⟩
      ⟨.password, q, r.set .username (some g), [], t⟩ :=
  leads_enter hstands (by simp) (by simp [State.rank]) fun c hs _ hsees _ => by
    simp [Cursor.look, hs, hsees]

/-- The sign behind a user without a password. -/
theorem leads_username_hostname (hstands : StandsFor w '@' t) :
    Leads ⟨.username, q, r, g, w ++ t⟩
      ⟨.hostname, q, r.set .username (some g), [], t⟩ :=
  leads_enter hstands (by simp) (by simp [State.rank]) fun c hs _ hsees _ => by
    simp [Cursor.look, hs, hsees]

/-- The sign behind a password. -/
theorem leads_password_hostname (hstands : StandsFor w '@' t) :
    Leads ⟨.password, q, r, g, w ++ t⟩
      ⟨.hostname, q, r.set .password (some g), [], t⟩ :=
  leads_enter hstands (by simp) (by simp [State.rank]) fun c hs _ hsees _ => by
    simp [Cursor.look, hs, hsees]

/-- The colon in front of a port. -/
theorem leads_hostname_port (hstands : StandsFor w ':' t) :
    Leads ⟨.hostname, q, r, g, w ++ t⟩
      ⟨.port, q, r.set .hostname (some g), [], t⟩ :=
  leads_enter hstands (by simp) (by simp [State.rank]) fun c hs hbrackets hsees _ => by
    simp [Cursor.look, hs, hsees, hbrackets]

/-- The sign of a fragment, in the state of a component that may come before one. -/
theorem leads_hash (hs : s ∈ [.hostname, .port, .pathname, .search]) :
    Leads ⟨s, q, r, g, '#' :: t⟩
      ⟨.hash, q, valuesBehind ⟨s, q, r, g, '#' :: t⟩ .hash, [], t⟩ := by
  refine leads_enter (standsFor_char (by decide) t) ?_ ?_ fun c hstate hbrackets hsees hquery => ?_
  · rintro rfl
    simp at hs
  · simp only [List.mem_cons, List.not_mem_nil, or_false] at hs
    rcases hs with rfl | rfl | rfl | rfl <;> decide
  · simp only [List.mem_cons, List.not_mem_nil, or_false] at hs
    rcases hs with rfl | rfl | rfl | rfl <;>
      simp [Cursor.look, hstate, hsees, hquery, Cursor.enterPath, Cursor.enterTail]

/-- The sign of a query, in the state of a component that may come before one. -/
theorem leads_search (hs : s ∈ [.hostname, .port, .pathname]) :
    Leads ⟨s, q, r, g, '?' :: t⟩
      ⟨.search, q, valuesBehind ⟨s, q, r, g, '?' :: t⟩ .search, [], t⟩ := by
  intro c hc
  have hrank : s.rank < State.search.rank := by
    simp only [List.mem_cons, List.not_mem_nil, or_false] at hs
    rcases hs with rfl | rfl | rfl <;> decide
  obtain ⟨l, behind, m, hrest, hbehind, hstep, hsees, hquery⟩ := hc.query rfl hrank
  have hstate : c.state = s := hc.state
  have hlook : c.look = .ok (c.enter .search 1) := by
    simp only [List.mem_cons, List.not_mem_nil, or_false] at hs
    rcases hs with rfl | rfl | rfl <;>
      simp [Cursor.look, hstate, hsees, hquery, Cursor.enterPath, Cursor.enterTail]
  have hdone : c.state ≠ .done := by
    rw [hstate]
    rintro rfl
    exact absurd hrank (by decide)
  exact ⟨_, .single ⟨hdone, hstep.trans hlook⟩, hc.enter
    (show c.rest = [l] ++ behind from hrest) hbehind
    (Nat.le_of_lt hrank) fun h => absurd h (Nat.lt_irrefl _)⟩

/-- The slash of a path, behind a host or a port. -/
theorem leads_pathname (hs : s = .hostname ∨ s = .port) :
    Leads ⟨s, q, r, g, '/' :: t⟩
      ⟨.pathname, q, valuesBehind ⟨s, q, r, g, '/' :: t⟩ .pathname, [], '/' :: t⟩ := by
  refine leads_of_look (w := ['/']) (standsFor_char (by decide) t) ?_
    fun c l behind m hc hrest hl hvalue hbehind => ?_
  · rcases hs with rfl | rfl <;> simp
  · obtain ⟨n, hahead⟩ := hc.ahead
    have hstate : c.state = s := hc.state
    have hsees := Cursor.sees_of_isQuiet hrest hl hvalue
    refine ⟨c.enter .pathname 0, ?_, hc.enter
      (show c.rest = [] ++ c.rest from rfl) hahead ?_ fun _ => nofun⟩
    · rcases hs with rfl | rfl <;> simp [Cursor.look, hstate, hsees, Cursor.enterPath]
    · rcases hs with rfl | rfl <;> simp [State.rank]

/-- The end of the text, in the state of a component. -/
theorem leads_done (hs : s.component?.isSome) :
    Leads ⟨s, q, r, g, []⟩ ⟨.done, q, written ⟨s, q, r, g, []⟩, [], []⟩ := by
  intro c hc
  obtain ⟨n, hahead⟩ := hc.ahead
  rw [lexFrom, Except.ok.injEq] at hahead
  have hstate : c.state = s := hc.state
  have hstep : c.step = .ok (c.enter .done 0) := by
    rw [Cursor.step_cons hahead.symm, if_pos rfl, Cursor.atEnd]
    cases s <;> simp_all [State.component?]
  have hdone : c.state ≠ .done := by
    rw [hstate]
    rintro rfl
    simp [State.component?] at hs
  have hend : lexFrom .lenient n [] = .ok c.rest := by rw [lexFrom, hahead]
  have hrank : State.rank s ≤ State.done.rank := s.rank_le
  have henter := hc.enter (show c.rest = [] ++ c.rest from rfl) hend hrank
    fun _ l hl => absurd hl List.not_mem_nil
  rw [valuesBehind, if_pos (.inr rfl)] at henter
  exact ⟨_, .single ⟨hdone, hstep⟩, henter⟩

/-- A host without a user ends at a path, a query, a fragment or the end of the text. -/
theorem leads_authority_host (ht : ∀ ch ∈ t.head?, ch ∈ ['/', '?', '#']) :
    Leads ⟨.authority, q, r, g, t⟩ ⟨.hostname, q, r, [], g ++ t⟩ := by
  intro c hc
  have hstate : c.state = .authority := hc.state
  refine ⟨_, .single ⟨by simp [hstate], ?_⟩, hc.rewind (by simp [State.rank]) .hostname⟩
  obtain ⟨n, hahead⟩ := hc.ahead
  cases t with
  | nil =>
      rw [lexFrom, Except.ok.injEq] at hahead
      rw [Cursor.step_cons hahead.symm, if_pos rfl, Cursor.atEnd, hstate]
  | cons ch t =>
      have hch : ch = '/' ∨ ch = '?' ∨ ch = '#' := by simpa using ht ch
      by_cases hquery : ch = '?'
      · subst hquery
        obtain ⟨l, behind, m, -, -, hstep, hsees, hquery⟩ := hc.query rfl (by simp [State.rank])
        rw [hstep]
        simp [Cursor.look, hstate, hsees, hquery]
      · have hspecial : isSpecial ch = false := by
          rcases hch with rfl | rfl | rfl
          · decide
          · exact absurd rfl hquery
          · decide
        obtain ⟨l, behind, m, hrest, hl, hvalue, -, -⟩ := standsFor_char hspecial t n _ hahead
        have hsees := Cursor.sees_of_isQuiet hrest hl hvalue
        rw [Cursor.step_of_isQuiet hrest hl hc.depth]
        rcases hch with rfl | rfl | rfl
        · simp [Cursor.look, hstate, hsees]
        · exact absurd rfl hquery
        · simp [Cursor.look, hstate, hsees]

/-- The signs between a protocol and a host. -/
theorem leads_authority {p : ComponentPattern}
    (hp : ComponentPattern.ofText .protocol false false g = .ok p) :
    Leads ⟨.protocol, q, r, g, ':' :: '/' :: '/' :: t⟩
      ⟨.authority, p.matchesSpecialScheme, r.set .protocol (some g), [], t⟩ := by
  intro c hc
  have hstate : c.state = .protocol := hc.state
  obtain ⟨n, hahead⟩ := hc.ahead
  have hname : takeName ('/' :: '/' :: t) = [] := by
    simp [takeName, show isNameStart '/' = false by decide]
  obtain ⟨l, behind, m, hrest, hl, hvalue, -, hbehind⟩ := standsFor_colon hname n _ hahead
  have hslash : isSpecial '/' = false := by decide
  obtain ⟨l₁, behind₁, m₁, rfl, hl₁, hvalue₁, -, hbehind₁⟩ :=
    standsFor_char hslash ('/' :: t) m _ hbehind
  obtain ⟨l₂, behind₂, m₂, rfl, hl₂, hvalue₂, -, hbehind₂⟩ :=
    standsFor_char hslash t m₁ _ hbehind₁
  have hsees := Cursor.sees_of_isQuiet hrest hl hvalue ':'
  have hjudged : { c with special := p.matchesSpecialScheme }.IsIn
      ⟨.protocol, p.matchesSpecialScheme, r, g, ':' :: '/' :: '/' :: t⟩ :=
    ⟨hstate, rfl, hc.values, hc.depth, hc.brackets, hc.gathered, hc.pending, hc.ahead, hc.quiet⟩
  have hjudge : c.judgeProtocol = .ok { c with special := p.matchesSpecialScheme } := by
    rw [Cursor.judgeProtocol, hc.gathered, hp]
    rfl
  have hslashes : { c with special := p.matchesSpecialScheme }.seesSlashes := by
    simp [Cursor.seesSlashes, hrest, Cursor.isSign_of_isQuiet hl₁ hvalue₁,
      Cursor.isSign_of_isQuiet hl₂ hvalue₂]
  have hskipped : c.rest = [l, l₁, l₂] ++ behind₂ := hrest
  have hentered : ({ c with special := p.matchesSpecialScheme }.enter .authority 3).IsIn
      ⟨.authority, p.matchesSpecialScheme, r.set .protocol (some g), [], t⟩ :=
    hjudged.enter hskipped hbehind₂ (by simp [State.rank]) fun _ => by simp [hl, hl₁, hl₂]
  generalize { c with special := p.matchesSpecialScheme } = judged at hjudge hslashes hentered
  have hlook : c.look = .ok (judged.enter .authority 3) := by
    simp only [Cursor.look, hstate, hsees, decide_true, if_true, hjudge, ok_bind, hslashes]
    rfl
  exact ⟨_, .single ⟨by simp [hstate], (Cursor.step_of_isQuiet hrest hl hc.depth).trans hlook⟩,
    hentered⟩

/-! ### Whole runs -/

/-- **A situation that leads from the start to the end tells what splitting gives.** -/
theorem splitText_of_leads {r' : Components (Option Text)}
    (h : Leads ⟨.start, false, .replicate none, [], t⟩ ⟨.done, q, r', [], []⟩) :
    splitText t = .ok (if r'.hostname.isSome ∧ r'.port.isNone then { r' with port := some [] }
      else r') := by
  obtain ⟨ls, hls⟩ := exists_lexFrom_lenient 0 t
  have hlex : lex .lenient t = .ok ls := hls
  have hsound := Cursor.sound_initial (placed_of_lexFrom hls).1
  obtain ⟨c, hgoes, hc⟩ := h (Cursor.initial ls)
    ⟨rfl, rfl, rfl, rfl, rfl, rfl, ⟨0, hls⟩, ⟨0, hls⟩, fun _ => nofun⟩
  have hrun := hsound.run_of_goes hgoes hc.state (Cursor.potential_initial ls).le
  rw [splitText, hlex]
  simp only [hrun, ok_bind, Cursor.result, hc.values]
  rfl

end Situation

end UrlMatch.Fields
