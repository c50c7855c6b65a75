import UrlMatch.Proofs.Pattern.Names

/-!
# Tidy parts

What a reader of a pattern's parts may rely on, whatever the pattern, its delimiters and its
encoder are: names and numbers tell the captures apart, the numbers count the captures without a
name, fixed text is in one piece, and no capture hides a simpler kind behind a regular expression.
`WellFormed` says this part by part, behind the names given so far; `Tidy` says it of the parts as
a whole.

## Main results

* `isName_iff`: which texts are names.
* `ordinalsOf_eq_range'`: captures without a name are counted.
* `tidy_of_parse`: the parts of a pattern are tidy.
-/

namespace UrlMatch.Pattern

/-! ### Names -/

/-- A name is a character that may start one, and characters that may continue it. -/
theorem isName_iff {n : Text} :
    IsName n ↔ ∃ c rest, n = c :: rest ∧ isNameStart c ∧ ∀ d ∈ rest, isNamePart d := by
  constructor
  · rintro ⟨hne, htake⟩
    obtain ⟨c, rest, rfl⟩ := List.exists_cons_of_ne_nil hne
    rw [takeName] at htake
    split at htake
    · rename_i hc
      exact ⟨c, rest, rfl, hc, List.takeWhile_eq_self_iff.1 (List.cons.inj htake).2⟩
    · cases htake
  · rintro ⟨c, rest, rfl, hc, hrest⟩
    refine ⟨List.cons_ne_nil c rest, ?_⟩
    rw [takeName, if_pos hc, List.takeWhile_eq_self_iff.2 hrest]

/-! ### Numbers -/

/-- The number of a capture that has no name. -/
def CaptureName.ordinal? : CaptureName → Option Nat
  | named _ => none
  | ordinal n => some n

/-- The numbers of the captures without a name, in order. -/
def ordinalsOf (parts : List Part) : List Nat := (namesOf parts).filterMap (·.ordinal?)

/-- A capture without a name gets the next number, and only such a capture uses it up. -/
theorem ordinals_of_assign {names names' : Naming} {name : CaptureName}
    (h : names.assign name.given? = .ok (name, names')) :
    (∀ k ∈ name.ordinal?, k = names.ordinals) ∧
      names'.ordinals = names.ordinals + name.ordinal?.toList.length := by
  cases name with
  | named n =>
      rw [CaptureName.given?, Naming.assign] at h
      split at h
      · cases h
      · cases h
        exact ⟨fun k hk => absurd hk (Option.not_mem_none k), rfl⟩
  | ordinal k =>
      cases h
      exact ⟨fun _ hk => (Option.some.inj hk).symm, rfl⟩

/-- **Captures without a name are counted** from the number that is given next, whatever captures
with a name stand between them. -/
theorem ordinalsOf_eq_range' {o : ReadOptions} {behindText : Bool} {names : Naming}
    {parts : List Part} (h : WellFormed o behindText names parts) :
    ordinalsOf parts = List.range' names.ordinals (ordinalsOf parts).length := by
  induction parts generalizing behindText names with
  | nil => rfl
  | cons p parts ih =>
      cases p with
      | fixed v m => exact ih h.2.2
      | capture c =>
          obtain ⟨-, names', hassign, hrest⟩ := h
          obtain ⟨hordinal, hnext⟩ := ordinals_of_assign hassign
          have ih := ih hrest
          rw [ordinalsOf, namesOf_capture, List.filterMap_cons]
          cases hname : c.name.ordinal? with
          | none =>
              rw [hname, Option.toList_none, List.length_nil, Nat.add_zero] at hnext
              rwa [← hnext]
          | some k =>
              rw [hname, Option.toList_some, List.length_singleton] at hnext
              rw [List.length_cons, List.range'_succ, hordinal k hname, ← hnext]
              exact congrArg _ ih

/-! ### Neighbours -/

/-- Behind a fixed text without a modifier stands no other one. -/
theorem not_infix_of_wellFormed {o : ReadOptions} {behindText : Bool} {names : Naming}
    {parts : List Part} (h : WellFormed o behindText names parts) (v w : Text) :
    ¬ [.fixed v .once, .fixed w .once] <:+: parts := by
  induction parts generalizing behindText names with
  | nil => simp
  | cons p parts ih =>
      rw [List.infix_cons_iff, not_or]
      cases p with
      | capture c =>
          obtain ⟨-, names', -, hrest⟩ := h
          exact ⟨by simp [List.cons_prefix_cons], ih hrest⟩
      | fixed u m =>
          obtain ⟨-, -, hrest⟩ := h
          refine ⟨fun hprefix => ?_, ih hrest⟩
          obtain ⟨hp, rest, rfl⟩ := List.cons_prefix_cons.1 hprefix
          obtain ⟨rfl, rfl⟩ := Part.fixed.inj hp
          exact absurd (hrest.1 rfl) (by decide)

/-- Each fixed text is what the encoder makes of a text that is not empty. -/
theorem exists_encode_of_wellFormed {o : ReadOptions} {behindText : Bool} {names : Naming}
    {parts : List Part} (h : WellFormed o behindText names parts) :
    ∀ v m, .fixed v m ∈ parts → ∃ s, s ≠ [] ∧ o.encode s = .ok v := by
  induction parts generalizing behindText names with
  | nil => nofun
  | cons p parts ih =>
      intro v m hmem
      cases p with
      | fixed u m' =>
          obtain ⟨-, hencode, hrest⟩ := h
          rcases List.mem_cons.1 hmem with heq | hmem
          · obtain ⟨rfl, rfl⟩ := Part.fixed.inj heq
            exact hencode
          · exact ih hrest v m hmem
      | capture c =>
          obtain ⟨-, names', -, hrest⟩ := h
          exact ih hrest v m (by simpa using hmem)

/-! ### Parts -/

/-- Parts as a pattern that is read with the given options has them. -/
structure Tidy (o : ReadOptions) (parts : List Part) : Prop where
  /-- The names of the captures, numbers included, differ from each other. -/
  names : (namesOf parts).Nodup
  /-- The captures without a name are numbered from zero on, in order. -/
  ordinals : ordinalsOf parts = List.range (ordinalsOf parts).length
  /-- No two fixed texts without a modifier stand side by side. -/
  apart : ∀ v w, ¬ [.fixed v .once, .fixed w .once] <:+: parts
  /-- A regular expression of its own is neither the wildcard's nor the segment's. -/
  custom : ∀ c r, .capture c ∈ parts → c.kind = .custom r →
    r ≠ wildcardRegexp ∧ r ≠ segmentRegexp o.delimiters
  /-- A name that is given follows the rule of names. -/
  named : ∀ c n, .capture c ∈ parts → c.name = .named n →
    ∃ first rest, n = first :: rest ∧ isNameStart first ∧ ∀ d ∈ rest, isNamePart d
  /-- Each fixed text is what the encoder makes of a text that is not empty. -/
  fixed : ∀ v m, .fixed v m ∈ parts → ∃ s, s ≠ [] ∧ o.encode s = .ok v

/-- Well-formed parts behind no names are tidy. -/
theorem WellFormed.tidy {o : ReadOptions} {parts : List Part}
    (h : WellFormed o false .empty parts) : Tidy o parts where
  names := (nodup_names h).1
  ordinals := by
    rw [List.range_eq_range']
    exact ordinalsOf_eq_range' h
  apart := not_infix_of_wellFormed h
  custom c r hc hkind := ((h.valid _ hc c rfl).custom r hkind).2
  named c n hc hname := isName_iff.1 ((h.valid _ hc c rfl).name n hname)
  fixed := exists_encode_of_wellFormed h

/-- **The parts of a pattern are tidy**; and where any text is its own canonical form, none of its
fixed texts is empty. -/
theorem tidy_of_parse {o : ReadOptions} {t : Text} {parts : List Part}
    (h : parse o t = .ok parts) :
    Tidy o parts ∧ ((∀ v, o.encode v = .ok v) → ∀ v m, .fixed v m ∈ parts → v ≠ []) := by
  have htidy := (wellFormed_of_parse h).tidy
  refine ⟨htidy, fun hplain v m hmem => ?_⟩
  obtain ⟨s, hs, hencode⟩ := htidy.fixed v m hmem
  rw [hplain s] at hencode
  exact Except.ok.inj hencode ▸ hs

/-- `tidy_of_parse` at numbers with a name between them, and at fixed text in two pieces. -/
theorem tidy_of_parse_numbered :
    let parts := [.capture ⟨.ordinal 0, ['/'], [], .custom "\\d+".toList, .once⟩,
      .capture ⟨.named ['a'], [], [], .segment, .zeroOrMore⟩, .fixed ['b'] .optional,
      .fixed ['c'] .once, .capture ⟨.ordinal 1, [], [], .wildcard, .once⟩]
    parse .default "/(\\d+):a*\x7bb\x7d?c*".toList = .ok parts ∧ Tidy .default parts ∧
      ordinalsOf parts = [0, 1] ∧ ∀ v m, .fixed v m ∈ parts → v ≠ [] := by
  intro parts
  have h : parse .default "/(\\d+):a*\x7bb\x7d?c*".toList = .ok parts := by decide +kernel
  obtain ⟨htidy, hfixed⟩ := tidy_of_parse h
  exact ⟨h, htidy, rfl, hfixed fun _ => rfl⟩

end UrlMatch.Pattern
