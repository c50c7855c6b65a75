import UrlMatch.Proofs.Pattern.CaptureGroups
import UrlMatch.Proofs.Pattern.Spelling
import UrlMatch.Proofs.Pattern.WellFormed

/-!
# Keys and groups

A compiled pattern finds its captures by position: the key at position `i` belongs to the group
`i + 1`. The regular expressions that a pattern brings along are copied as they are, and what keeps
them from shifting the groups behind them is only that their parentheses are counted when the
pattern is read. This is enough exactly if each of them is closed where its group closes.

## Main results

* `compile_of_closed`: a pattern whose regular expressions are closed compiles, and its keys belong
  to its groups.
* `keysBelong_iff`: **when the keys of a pattern belong to its groups**.
* `not_keysBelong_of_bracket`: brackets that open in one capture and close in the next one.
-/

namespace UrlMatch.Pattern

open Regex

variable {o : MatchOptions}

/-! ### In front of the parts and behind them -/

/-- A reader that has read nothing but flags and looks. -/
structure AtStart (b : Bool) (s : Reader) : Prop where
  flags : s.flags = .plain b
  groups : s.groups = 0
  outer : s.outer = []
  alternatives : s.alternatives = []

namespace MatchOptions

/-- The sign that makes case indifferent is read, if it is there. -/
theorem reaches_case (sensitive : Bool) (rest : Text) :
    ∃ s, Reader.Reaches (.initial, (if sensitive then [] else ['(', '?', 'i', ')']) ++ rest)
      (s, rest) ∧ AtStart (!sensitive) s := by
  cases sensitive with
  | true => exact ⟨.initial, .refl, rfl, rfl, rfl, rfl⟩
  | false =>
      have hstep : step .initial ('(' :: '?' :: 'i' :: ')' :: rest) =
          some ({ Reader.initial with flags := .plain true, items := [none] }, rest) := by
        simp [step, readGroup, readFlags, Reader.initial, Flags.skip, Flags.initial, Flags.update?,
          Flags.plain]
      exact ⟨_, Reader.reaches_of_step (b := false) rfl hstep (by simp; omega), rfl, rfl, rfl, rfl⟩

/-- **What stands in front of the parts** sets flags and opens nothing. -/
theorem reaches_opening (o : MatchOptions) (rest : Text) :
    ∃ s, Reader.Reaches (.initial, o.opening ++ rest) (s, rest) ∧ AtStart (!o.sensitive) s := by
  obtain ⟨s, hreaches, hs⟩ :=
    reaches_case o.sensitive ((if o.fromStart then ['^'] else []) ++ rest)
  rw [opening, List.append_assoc]
  cases hstart : o.fromStart with
  | false =>
      rw [hstart] at hreaches
      exact ⟨s, hreaches, hs⟩
  | true =>
      rw [hstart] at hreaches
      obtain ⟨r, hread, -⟩ := DenotesAtom.startText (b := !o.sensitive)
      exact ⟨_, hreaches.trans (hread.reaches rest hs.flags), hs.flags, hs.groups, hs.outer,
        hs.alternatives⟩

/-- What stands behind the parts opens no group that records. -/
theorem reads_closing (b : Bool) (o : MatchOptions) (parts : List Part) :
    ∃ items, Reads b (o.closing parts) 0 items := by
  obtain ⟨_, hend, -⟩ := DenotesAtom.endText (b := b)
  rw [closing, delimiterClass?]
  by_cases hd : o.delimiters = []
  · cases o.toEnd with
    | true => exact ⟨_, by simpa [hd] using hend.reads⟩
    | false => exact ⟨_, by simpa [hd] using Reads.nil⟩
  · obtain ⟨_, hclass, -⟩ := denotesAtom_class (b := b) hd
    cases o.toEnd with
    | true =>
        cases o.strict with
        | true => exact ⟨_, by simpa [hd] using hend.reads⟩
        | false =>
            have hoptional := hclass.repeated (c := '?') 0 (some 1) fun s rest => rfl
            exact ⟨_, by simpa [hd] using hoptional.append hend.reads⟩
    | false =>
        cases endsInDelimiter o.delimiters parts with
        | true => exact ⟨_, by simpa [hd] using Reads.nil⟩
        | false =>
            have hgroup := (hclass.reads.alternative hend.reads).plain
            exact ⟨_, by simpa [hd, plainGroup] using hgroup.reads⟩

end MatchOptions

/-- An expression behind the opening is accepted, and its last group is the last one that it
holds. -/
theorem parse?_of_records {b : Bool} {x e : Text} {n : Nat} {s : Reader}
    (hopening : Reader.Reaches (.initial, x ++ e) (s, e)) (hs : AtStart b s) (h : Records b e n) :
    ∃ r, Regex.parse? (x ++ e) = some r ∧ lastGroup r = n := by
  obtain ⟨items, hreads, hheld⟩ := h
  have hnil : ([] : Text).head? ≠ some '?' := by simp
  have hbehind := hreads.reaches (s := s) hs.flags hnil
  rw [hs.groups, List.append_nil] at hbehind
  have hall := hopening.trans hbehind
  refine ⟨(s.add (items 0) n).current, Reader.parse?_of_reaches hall hs.flags hs.outer,
    Nat.le_antisymm ?_ ?_⟩
  · have hcurrent := (Reader.Numbered.initial.reaches hall).current
    simpa [hs.groups] using hcurrent
  · have hn := hheld 0
    simp only [Reader.current, Reader.add, hs.alternatives, List.reverse_append, choice,
      List.reverse_reverse, List.filterMap_append, List.filterMap_map, List.reverse_singleton,
      lastGroup_sequence_append, Function.comp_def, id, List.filterMap_some]
    omega

/-! ### Groups of a text -/

/-- In the expression `t`, the parentheses around `w`, with `x` in front of them and `z` behind
them, are the ones of the group `n`: the reader that comes to the first one opens the group there,
and at the second one this group is the one that it closes. -/
structure IsGroup (t : Text) (n : Nat) (x w z : Text) : Prop where
  text : t = x ++ '(' :: (w ++ ')' :: z)
  opens : ∃ s, Reader.Reaches (.initial, t) (s, '(' :: (w ++ ')' :: z)) ∧
    step s ('(' :: (w ++ ')' :: z)) = some (s.openCapture, w ++ ')' :: z) ∧ s.groups + 1 = n
  closes : ∃ s frame outer, Reader.Reaches (.initial, t) (s, ')' :: z) ∧ s.outer = frame :: outer ∧
    frame.index = some n

/-- What stands in front of the group of a capture that stands behind the parts `before`. -/
def inFrontOf (o : MatchOptions) (before : List Part) (c : Capture) : Text :=
  o.opening ++ before.flatMap (·.source (segmentRegexp o.delimiters)) ++ c.front

/-- What stands behind the group of a capture between the parts `before` and `after`. -/
def behindOf (o : MatchOptions) (before : List Part) (c : Capture) (after : List Part) : Text :=
  c.back ++ after.flatMap (·.source (segmentRegexp o.delimiters)) ++
    o.closing (before ++ .capture c :: after)

theorem source_eq (o : MatchOptions) (before : List Part) (c : Capture) (after : List Part) :
    source o (before ++ .capture c :: after) = inFrontOf o before c ++
      '(' :: (c.inner (segmentRegexp o.delimiters) ++ ')' :: behindOf o before c after) := by
  simp [source, inFrontOf, behindOf, Part.source, Capture.source_eq, recordingGroup]

/-- The keys of a compiled pattern belong to its groups: there are as many groups as keys, and the
key at position `i` is the one of a capture for which the group `i + 1` was written. -/
structure KeysBelong (o : MatchOptions) (parts : List Part) (compiled : Compiled) : Prop where
  groups : compiled.program.groups = compiled.keys.length + 1
  group : ∀ before c after, parts = before ++ .capture c :: after →
    compiled.keys[(keysOf before).length]? = some c.key ∧
      IsGroup compiled.source ((keysOf before).length + 1) (inFrontOf o before c)
        (c.inner (segmentRegexp o.delimiters)) (behindOf o before c after)

/-! ### On the way to a group -/

/-- What stands in front of the group of a capture opens no group that records. -/
theorem Capture.reaches_front {b : Bool} (c : Capture) {s : Reader} (hs : s.flags = .plain b)
    (houter : s.outer = []) (rest : Text) :
    ∃ s', Reader.Reaches (s, c.front ++ '(' :: rest) (s', '(' :: rest) ∧ s'.flags = .plain b ∧
      s'.groups = s.groups ∧ ∀ frame ∈ s'.outer, frame.index = none := by
  rw [front]
  split
  · exact ⟨s, .refl, hs, rfl, by simp [houter]⟩
  · have hopen : step s ('(' :: '?' :: ':' :: (Regex.escape c.lead ++ '(' :: rest)) =
        some (s.openGroup none s.flags, Regex.escape c.lead ++ '(' :: rest) := by
      simp [step, readGroup, readFlags, hs]
    have hfirst := Reader.reaches_of_step hs hopen (by simp; omega)
    have hhead : ('(' :: rest).head? ≠ some '?' := by simp
    have hlead := (Reads.escape c.lead).reaches (s := s.openGroup none s.flags) hs hhead
    exact ⟨_, hfirst.trans hlead, hs, rfl, by simp [Reader.add, Reader.openGroup, houter]⟩

/-- **On the way to the group of a capture** behind captures that fill theirs. -/
theorem reaches_group {before : List Part} (c : Capture) (after : List Part)
    (hbefore : ∀ p ∈ before, ∀ c ∈ p.capture?,
      ∃ r, ReadsGroup (!o.sensitive) (c.inner (segmentRegexp o.delimiters)) 0 r) :
    ∃ s, Reader.Reaches (.initial, source o (before ++ .capture c :: after))
      (s, '(' :: (c.inner (segmentRegexp o.delimiters) ++ ')' :: behindOf o before c after)) ∧
      s.flags = .plain (!o.sensitive) ∧ s.groups = (keysOf before).length ∧
      ∀ frame ∈ s.outer, frame.index = none := by
  obtain ⟨items, hreads, -⟩ := records_parts hbefore
  generalize hrest : c.inner (segmentRegexp o.delimiters) ++ ')' :: behindOf o before c after = rest
  obtain ⟨s, hopening, hs⟩ := o.reaches_opening
    (before.flatMap (·.source (segmentRegexp o.delimiters)) ++ (c.front ++ '(' :: rest))
  have hhead : (c.front ++ '(' :: rest).head? ≠ some '?' := by
    rw [Capture.front]
    split <;> simp
  have hparts := hreads.reaches hs.flags hhead
  obtain ⟨s', hfront, hflags, hgroups, houter⟩ :=
    c.reaches_front (s := s.add (items s.groups) (keysOf before).length) hs.flags hs.outer rest
  refine ⟨s', ?_, hflags, ?_, houter⟩
  · rw [source_eq, inFrontOf, hrest, List.append_assoc, List.append_assoc]
    exact (hopening.trans hparts).trans hfront
  · rw [hgroups, Reader.groups_add, hs.groups, Nat.zero_add]

/-- The parenthesis in front of the group of a valid capture opens a group that records. -/
theorem step_group {o' : ReadOptions} {c : Capture} (rest : Text) {s : Reader}
    (hvalid : c.Valid o') (hs : s.flags = .plain (!o.sensitive)) :
    step s ('(' :: (c.inner (segmentRegexp o.delimiters) ++ ')' :: rest)) =
      some (s.openCapture, c.inner (segmentRegexp o.delimiters) ++ ')' :: rest) := by
  refine readGroup_of_head_ne hs ?_
  have hhead := c.head_inner_ne (d := o.delimiters) fun r hr => (hvalid.custom r hr).1
  cases hinner : c.inner (segmentRegexp o.delimiters) with
  | nil => simp
  | cons x w => simpa [hinner] using hhead

/-! ### When keys belong to groups -/

/-- The regular expressions that the captures bring along are closed: each of them, as it stands in
its group, leaves nothing open at the parenthesis behind it. -/
def AllClosed (o : MatchOptions) (parts : List Part) : Prop :=
  ∀ p ∈ parts, ∀ c ∈ p.capture?, c.kind.isCustom →
    Closed (.plain (!o.sensitive)) (c.inner (segmentRegexp o.delimiters))

/-- Captures whose regular expressions are closed fill their groups. -/
theorem AllClosed.readsGroup {o' : ReadOptions} {parts : List Part} (h : AllClosed o parts)
    (hvalid : ∀ p ∈ parts, ∀ c ∈ p.capture?, c.Valid o') : ∀ p ∈ parts, ∀ c ∈ p.capture?,
      ∃ r, ReadsGroup (!o.sensitive) (c.inner (segmentRegexp o.delimiters)) 0 r :=
  fun p hp c hc =>
    Capture.readsGroup (fun r hr => ((hvalid p hp c hc).custom r hr).1) (h p hp c hc)

/-- A capture whose regular expression is closed, behind others, has its own group. -/
theorem isGroup_of_closed {o' : ReadOptions} {before after : List Part} {c : Capture}
    (hvalid : ∀ p ∈ before ++ .capture c :: after, ∀ c ∈ p.capture?, c.Valid o')
    (h : AllClosed o (before ++ .capture c :: after)) :
    IsGroup (source o (before ++ .capture c :: after)) ((keysOf before).length + 1)
      (inFrontOf o before c) (c.inner (segmentRegexp o.delimiters))
      (behindOf o before c after) := by
  have hgroups := h.readsGroup hvalid
  obtain ⟨hbefore, hbehind⟩ := List.forall_mem_append.1 hgroups
  obtain ⟨s, hreaches, hs, hn, -⟩ := reaches_group c after hbefore
  obtain ⟨r, hread⟩ := hbehind (.capture c) List.mem_cons_self c rfl
  have hstep := step_group (behindOf o before c after) (hvalid (.capture c) (by simp) c rfl) hs
  refine ⟨source_eq o before c after, ⟨s, hreaches, hstep, by rw [hn]⟩, ?_⟩
  obtain ⟨s', hinner, houter, -⟩ := hread.reaches (s := s.openCapture) _ hs rfl rfl
  have hopened := hreaches.trans (Reader.reaches_of_step hs hstep (by simp))
  exact ⟨s', _, _, hopened.trans hinner, houter, congrArg some (by rw [hn])⟩

/-- A capture that has its own group, behind others that fill theirs, has a regular expression that
is closed. -/
theorem closed_of_isGroup {o' : ReadOptions} {before after : List Part} {c : Capture}
    (hbefore : ∀ p ∈ before, ∀ c ∈ p.capture?,
      ∃ r, ReadsGroup (!o.sensitive) (c.inner (segmentRegexp o.delimiters)) 0 r)
    (hvalid : c.Valid o') (hcustom : c.kind.isCustom)
    (h : IsGroup (source o (before ++ .capture c :: after)) ((keysOf before).length + 1)
      (inFrontOf o before c) (c.inner (segmentRegexp o.delimiters)) (behindOf o before c after)) :
    Closed (.plain (!o.sensitive)) (c.inner (segmentRegexp o.delimiters)) := by
  obtain ⟨s, hreaches, hs, hn, hnone⟩ := reaches_group c after hbefore
  obtain ⟨s', frame, outer, hcloses, houter, hindex⟩ := h.closes
  have hopened := hreaches.trans
    (Reader.reaches_of_step hs (step_group (behindOf o before c after) hvalid hs) (by simp))
  have hinner := Reader.reaches_of_length_le hopened hcloses (by simp)
  have hbalanced := c.balanced_inner (segmentRegexp o.delimiters)
    (fun r hr => (hvalid.custom r hr).1) hcustom
  have hflags : s.openCapture.flags = .plain (!o.sensitive) := hs
  have hle : (keysOf before).length + 1 ≤ s.openCapture.groups :=
    Nat.le_of_eq (congrArg (· + 1) hn.symm)
  rw [← hflags]
  exact closed_of_reaches hbalanced rfl rfl rfl
    (fun f hf => by simp [hnone f hf]) hle hinner houter hindex

/-- **Closed regular expressions keep the groups in their places**: such a pattern compiles, and its
keys belong to its groups. -/
theorem compile_of_closed {o' : ReadOptions} {parts : List Part}
    (hvalid : ∀ p ∈ parts, ∀ c ∈ p.capture?, c.Valid o') (h : AllClosed o parts) :
    ∃ c, compile o parts = .ok c ∧ KeysBelong o parts c := by
  obtain ⟨items, hclosing⟩ := o.reads_closing (!o.sensitive) parts
  have hrecords := (records_parts (h.readsGroup hvalid)).append (.of_reads hclosing)
  obtain ⟨s, hopening, hs⟩ := o.reaches_opening
    (parts.flatMap (·.source (segmentRegexp o.delimiters)) ++ o.closing parts)
  obtain ⟨r, hparse, hr⟩ := parse?_of_records hopening hs hrecords
  rw [← List.append_assoc] at hparse
  have hcompile : compile o parts = .ok ⟨source o parts, Regex.program r, keysOf parts⟩ := by
    simp only [compile, source, hparse]
  refine ⟨_, hcompile, ?_, ?_⟩
  · rw [groups_program, hr, Nat.add_zero]
  · rintro before c after rfl
    exact ⟨by simp [keysOf, Part.capture?], isGroup_of_closed hvalid h⟩

/-- Keys that belong to their groups tell that the regular expressions are closed, one after the
other. -/
theorem allClosed_of_keysBelong {o' : ReadOptions} {parts : List Part} {compiled : Compiled}
    (hvalid : ∀ p ∈ parts, ∀ c ∈ p.capture?, c.Valid o')
    (hsource : compiled.source = source o parts) (h : KeysBelong o parts compiled) :
    AllClosed o parts := by
  suffices hall : ∀ before after, parts = before ++ after → AllClosed o before from
    hall parts [] (List.append_nil _).symm
  intro before
  induction before using List.reverseRecOn with
  | nil => exact fun _ _ _ hp => nomatch hp
  | append_singleton before p ih =>
      rintro after rfl
      have hbefore : AllClosed o before := ih (p :: after) (by simp)
      refine List.forall_mem_append.2 ⟨hbefore, List.forall_mem_singleton.2 fun c hc hcustom => ?_⟩
      obtain rfl : p = .capture c := by
        cases p with
        | fixed v m => simp [Part.capture?] at hc
        | capture c' => simpa [Part.capture?] using hc
      obtain ⟨-, hgroup⟩ := h.group before c after (by simp)
      rw [hsource, List.append_assoc] at hgroup
      have hvalid' : ∀ p ∈ before, ∀ c ∈ p.capture?, c.Valid o' :=
        fun p hp => hvalid p (by simp [hp])
      have hc := hvalid (.capture c) (by simp) c rfl
      exact closed_of_isGroup (hbefore.readsGroup hvalid') hc hcustom hgroup

/-- **When the keys of a pattern belong to its groups**: exactly if the regular expressions that its
captures bring along are closed. -/
theorem keysBelong_iff {o' : ReadOptions} {t : Text} {parts : List Part} {c : Compiled}
    (hparse : parse o' t = .ok parts) (hcompile : compile o parts = .ok c) :
    KeysBelong o parts c ↔ AllClosed o parts := by
  have hvalid := (wellFormed_of_parse hparse).valid
  constructor
  · refine allClosed_of_keysBelong hvalid ?_
    simp only [compile] at hcompile
    split at hcompile
    · cases hcompile
    · cases hcompile
      rfl
  · intro h
    obtain ⟨c', hcompile', hbelong⟩ := compile_of_closed hvalid h
    exact Except.ok.inj (hcompile.symm.trans hcompile') ▸ hbelong

/-- A regular expression that is a letter is closed: the key of `(a)` belongs to its group. -/
theorem keysBelong_of_letter :
    let parts := [.capture ⟨.ordinal 0, [], [], .custom ['a'], .once⟩]
    parse .default ['(', 'a', ')'] = .ok parts ∧ AllClosed .default parts ∧
      ∃ c, compile .default parts = .ok c ∧ KeysBelong .default parts c := by
  intro parts
  have hregexp : IsRegexp ['a'] :=
    ⟨by simp, by simp, .other (by decide) (by decide) (by decide) .nil⟩
  have hspells : Spells [.bare (.regexp ['a']) .once] ['(', 'a', ')'] :=
    .bare (t := []) (.regexp hregexp) trivial (fun _ => by decide) .nil
  have hparse : parse .default ['(', 'a', ')'] = .ok parts := parse_of_spells .default hspells
  have hclosed : AllClosed .default parts := by
    refine List.forall_mem_singleton.2 fun c hc _ => ?_
    obtain rfl : _ = c := Option.some.inj hc
    have hletter := ReadsAtom.escaped (b := false) 'a'
    exact ⟨_, hletter.reaches [')'] rfl, rfl⟩
  obtain ⟨c, hcompile, -⟩ := compile_of_closed (wellFormed_of_parse hparse).valid hclosed
  exact ⟨hparse, hclosed, c, hcompile, (keysBelong_iff hparse hcompile).2 hclosed⟩

/-- **A bracket that opens in one capture and closes in the next one** takes the parentheses between
them out of the count: `([)(])` has two captures, and its expression a single group. -/
theorem not_keysBelong_of_bracket :
    let parts := [.capture ⟨.ordinal 0, [], [], .custom ['['], .once⟩,
      .capture ⟨.ordinal 1, [], [], .custom [']'], .once⟩]
    parse .default ['(', '[', ')', '(', ']', ')'] = .ok parts ∧
      ∃ c, compile .default parts = .ok c ∧ c.keys.length = 2 ∧ c.program.groups = 2 ∧
        ¬ KeysBelong .default parts c := by
  intro parts
  have hregexp (c : Char) (h : c ≠ '\\' ∧ c ≠ '(' ∧ c ≠ ')' ∧ c ≠ '?') : IsRegexp [c] :=
    ⟨by simp, by simpa using h.2.2.2, .other h.1 h.2.1 h.2.2.1 .nil⟩
  have hspells : Spells [.bare (.regexp ['[']) .once, .bare (.regexp [']']) .once]
      ['(', '[', ')', '(', ']', ')'] :=
    .bare (t := ['(', ']', ')']) (.regexp (hregexp _ (by decide))) trivial (fun _ => by decide)
      (.bare (t := []) (.regexp (hregexp _ (by decide))) trivial (fun _ => by decide) .nil)
  have hparse : parse .default ['(', '[', ')', '(', ']', ')'] = .ok parts :=
    parse_of_spells .default hspells
  obtain ⟨r, hclass, -⟩ := denotesAtom_class (b := false) (d := [')', '(']) (by decide)
  have hgroup := records_capture
    (c := ⟨.ordinal 0, [], [], .custom ['[', ')', '(', ']'], .once⟩)
    (segmentRegexp defaultDelimiters) hclass.reads.group
  obtain ⟨items, hclosing⟩ := MatchOptions.default.reads_closing false parts
  obtain ⟨s, hopening, hs⟩ := MatchOptions.default.reaches_opening _
  obtain ⟨r, hr, hlast⟩ := parse?_of_records hopening hs (hgroup.append (.of_reads hclosing))
  have hcompile : compile .default parts =
      .ok ⟨source .default parts, Regex.program r, keysOf parts⟩ := by
    have hsource : Regex.parse? (source .default parts) = some r := hr
    simp only [compile, hsource]
  have hgroups : (Regex.program r).groups = 2 := by rw [groups_program, hlast]
  refine ⟨hparse, _, hcompile, rfl, hgroups, fun h => ?_⟩
  have hcount : (Regex.program r).groups = 3 := h.groups
  omega

end UrlMatch.Pattern
