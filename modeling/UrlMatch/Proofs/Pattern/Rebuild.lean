import UrlMatch.Proofs.Pattern.Language
import UrlMatch.Proofs.Pattern.Names
import UrlMatch.Proofs.Pattern.Spelling

/-!
# Groups rebuild the input

What the captures of a match report, put back between the fixed texts of the pattern, gives the
input. The groups that take part in a match record where they begin and end, each at most once,
and these positions fit the parts one after the other; since no two captures are found under the
same text, each is found under its own.

## Main results

* `fits_of_waysOf`: the slots recorded on the ways of parts fit the parts.
* `rebuild_groups`: **the groups of a match rebuild the input**, up to a delimiter at its end.
-/

namespace UrlMatch.Pattern

open Regex

variable {d t : Text} {parts : List Part} {spans : List (Option (Nat × Nat))} {i j k : Nat}

/-! ### Slots of captures -/

/-- What captures record, the first one under the number `k + 1`, last first. -/
def slotsOf : (k : Nat) → List (Option (Nat × Nat)) → Slots
  | _, [] => []
  | k, none :: spans => slotsOf (k + 1) spans
  | k, some s :: spans => slotsOf (k + 1) spans ++ [(2 * (k + 1) + 1, s.2), (2 * (k + 1), s.1)]

theorem lookup_cons_of_ne {a b slot : Nat} {u : Slots} (h : slot ≠ a) :
    List.lookup slot ((a, b) :: u) = u.lookup slot := by
  rw [List.lookup_cons, beq_eq_false_iff_ne.2 h]

/-- Nothing is recorded under the numbers of groups in front of the captures. -/
theorem lookup_slotsOf_of_lt {slot : Nat} (h : slot < 2 * (k + 1)) :
    (slotsOf k spans).lookup slot = none := by
  induction spans generalizing k with
  | nil => rfl
  | cons s spans ih =>
      cases s with
      | none => exact ih (by omega)
      | some s =>
          rw [slotsOf, List.lookup_append, ih (by omega), lookup_cons_of_ne (by omega),
            lookup_cons_of_ne (by omega)]
          rfl

/-- The two ends of a capture's group are recorded under its two numbers. -/
theorem lookup_slotsOf (n : Nat) (last : Bool) :
    (slotsOf k spans).lookup (2 * (k + n + 1) + last.toNat) =
      (spans[n]?.join).map fun s => if last then s.2 else s.1 := by
  have hbit := Bool.toNat_le last
  induction spans generalizing k n with
  | nil => rfl
  | cons s spans ih =>
      cases n with
      | zero =>
          have hrest : (slotsOf (k + 1) spans).lookup (2 * (k + 0 + 1) + last.toNat) = none :=
            lookup_slotsOf_of_lt (by omega)
          cases s with
          | none => exact hrest
          | some s =>
              rw [slotsOf, List.lookup_append, hrest]
              cases last with
              | true => exact List.lookup_cons_self
              | false => exact (lookup_cons_of_ne (by simp)).trans List.lookup_cons_self
      | succ n =>
          have hrest := ih (k := k + 1) n
          rw [Nat.add_right_comm k 1 n] at hrest
          cases s with
          | none => exact hrest
          | some s =>
              rw [slotsOf, List.lookup_append, ← Nat.add_assoc, hrest,
                lookup_cons_of_ne (by omega),
                lookup_cons_of_ne (by omega)]
              exact Option.or_none

/-- The span of a capture's group is the one recorded. -/
theorem span?_slotsOf (n : Nat) :
    (Found.mk ((1, j) :: slotsOf 0 spans ++ [(0, i)])).span? (n + 1) = spans[n]?.join := by
  have hlookup (last : Bool) : List.lookup (2 * (n + 1) + last.toNat)
      ((1, j) :: slotsOf 0 spans ++ [(0, i)]) =
        (spans[n]?.join).map fun s => if last then s.2 else s.1 := by
    have hbit := Bool.toNat_le last
    have h : (slotsOf 0 spans).lookup (2 * (0 + n + 1) + last.toNat) =
        (spans[n]?.join).map fun s => if last then s.2 else s.1 := lookup_slotsOf n last
    rw [Nat.zero_add] at h
    rw [List.cons_append, lookup_cons_of_ne (by omega),
      List.lookup_append, h, lookup_cons_of_ne (by omega)]
    exact Option.or_none
  have hfirst := hlookup false
  have hlast := hlookup true
  simp only [Bool.toNat_false, Bool.toNat_true, Nat.add_zero] at hfirst hlast
  rw [Found.span?, hfirst, hlast]
  cases spans[n]?.join <;> rfl

/-! ### Spans that fit parts -/

/-- Parts cover a text from one position to another, where captures have the given spans, or none
if they are missing. -/
inductive Fits (d t : Text) : List Part → List (Option (Nat × Nat)) → Nat → Nat → Prop
  | nil (i : Nat) : Fits d t [] [] i i
  | fixed {v : Text} {m : Modifier} {parts : List Part} {spans : List (Option (Nat × Nat))}
      {i j : Nat} (hv : v <+: t.drop i) (rest : Fits d t parts spans (i + v.length) j) :
      Fits d t (.fixed v m :: parts) spans i j
  | missing {c : Capture} {parts : List Part} {spans : List (Option (Nat × Nat))} {i j : Nat}
      (rest : Fits d t parts spans i j) : Fits d t (.capture c :: parts) (none :: spans) i j
  | present {c : Capture} {x : Text} {parts : List Part} {spans : List (Option (Nat × Nat))}
      {i j : Nat} (hx : x ∈ c.values false d) (hwhole : c.lead ++ x ++ c.trail <+: t.drop i)
      (rest : Fits d t parts spans (i + (c.lead ++ x ++ c.trail).length) j) :
      Fits d t (.capture c :: parts)
        (some (i + c.lead.length, i + c.lead.length + x.length) :: spans) i j

/-- What a capture that takes part matches and records. -/
theorem present_cases {c : Capture} {u : Slots} (h : c.present false d t k i j u) :
    ∃ x ∈ c.values false d, c.lead ++ x ++ c.trail <+: t.drop i ∧
      j = i + (c.lead ++ x ++ c.trail).length ∧
      u = [(2 * (k + 1) + 1, i + c.lead.length + x.length), (2 * (k + 1), i + c.lead.length)] := by
  rw [Capture.present, variantsOf_false, variantsOf_false] at h
  obtain ⟨_, _, _, ⟨⟨_, rfl, hlead, rfl⟩, rfl⟩, ⟨_, _, _, hgroup, htrail, rfl⟩, rfl⟩ := h
  obtain ⟨_, ⟨⟨x, hx, hvalue, rfl⟩, rfl⟩, rfl⟩ := Way.group_iff.1 hgroup
  obtain ⟨⟨_, rfl, htrail, rfl⟩, rfl⟩ := htrail
  refine ⟨x, hx, ?_, by simp [Nat.add_assoc], rfl⟩
  rw [List.append_assoc, Way.append_isPrefix_drop, Way.append_isPrefix_drop]
  exact ⟨hlead, hvalue, htrail⟩

/-- A capture is missing, or takes part once. -/
theorem way_cases {c : Capture} {u : Slots} (h : c.way false d t k i j u) :
    (j = i ∧ u = []) ∨ c.present false d t k i j u := by
  rw [Capture.way] at h
  split at h
  · obtain ⟨n, hn, h⟩ := h
    rcases Nat.le_one_iff_eq_zero_or_eq_one.1 hn with rfl | rfl
    · exact .inl h
    · exact .inr (by rwa [Way.times_one] at h)
  · exact .inr h

/-- **The slots recorded on the ways of parts fit the parts.** -/
theorem fits_of_waysOf {u : Slots} (hfixed : ∀ v m, .fixed v m ∈ parts → m = .once)
    (h : waysOf false d parts t k i j u) :
    ∃ spans, u = slotsOf k spans ∧ Fits d t parts spans i j := by
  induction parts generalizing k i u with
  | nil =>
      obtain ⟨rfl, rfl⟩ := h
      exact ⟨[], rfl, .nil j⟩
  | cons p parts ih =>
      obtain ⟨l, u, w, hp, hrest, rfl⟩ := h
      obtain ⟨spans, rfl, hfits⟩ := ih (fun v m hv => hfixed v m (List.mem_cons_of_mem _ hv)) hrest
      cases p with
      | fixed v m =>
          obtain rfl := hfixed v m List.mem_cons_self
          simp only [Part.way, Modifier.allows_once, Way.repeated_eq_one, variantsOf_false] at hp
          obtain ⟨⟨_, rfl, hv, rfl⟩, rfl⟩ := hp
          exact ⟨spans, by simp [Part.groups], .fixed hv hfits⟩
      | capture c =>
          rcases way_cases hp with ⟨rfl, rfl⟩ | hpresent
          · exact ⟨none :: spans, by simp [slotsOf, Part.groups], .missing hfits⟩
          · obtain ⟨x, hx, hwhole, rfl, rfl⟩ := present_cases hpresent
            exact ⟨_ :: spans, rfl, .present hx hwhole hfits⟩

/-! ### Groups that are put back -/

/-- The captures among parts, in order. -/
def capturesOf (parts : List Part) : List Capture := parts.filterMap (·.capture?)

theorem keysOf_eq (parts : List Part) : keysOf parts = (capturesOf parts).map Capture.key := by
  simp [keysOf, capturesOf, List.map_filterMap]

@[simp] theorem capturesOf_capture (c : Capture) (parts : List Part) :
    capturesOf (.capture c :: parts) = c :: capturesOf parts := rfl

/-- The text of a span. -/
def spanText (t : Text) (s : Nat × Nat) : Text := (t.drop s.1).take (s.2 - s.1)

theorem spanText_of_isPrefix {a x b : Text} (h : a ++ x ++ b <+: t.drop i) :
    spanText t (i + a.length, i + a.length + x.length) = x := by
  rw [List.append_assoc, Way.append_isPrefix_drop, Way.append_isPrefix_drop] at h
  obtain ⟨rest, hrest⟩ := h.2.1
  simp [spanText, ← hrest]

/-- Fixed texts, and the groups of captures between their own fixed texts. A capture whose group is
missing leaves nothing. -/
def rebuild (g : Groups) : List Part → Text
  | [] => []
  | .fixed value _ :: parts => value ++ rebuild g parts
  | .capture c :: parts =>
    (match g.lookup c.name.display with
      | some (some x) => c.lead ++ x ++ c.trail
      | _ => []) ++ rebuild g parts

/-- Each capture is found under its name, with the text of its span. -/
def Reports (g : Groups) (t : Text) : List Capture → List (Option (Nat × Nat)) → Prop :=
  List.Forall₂ fun c s => g.lookup c.name.display = some (s.map (spanText t))

/-- Groups with the texts of fitting spans rebuild what the parts cover. -/
theorem rebuild_of_fits {g : Groups} (hfits : Fits d t parts spans i j)
    (hg : Reports g t (capturesOf parts) spans) :
    rebuild g parts <+: t.drop i ∧ j = i + (rebuild g parts).length := by
  induction hfits with
  | nil i => simp [rebuild]
  | fixed hv rest ih =>
      obtain ⟨hfront, hj⟩ := ih hg
      exact ⟨Way.append_isPrefix_drop.2 ⟨hv, hfront⟩, by simp [rebuild, hj, Nat.add_assoc]⟩
  | missing rest ih =>
      rw [capturesOf_capture] at hg
      obtain ⟨hc, hrest⟩ := List.forall₂_cons.1 hg
      simpa [rebuild, hc] using ih hrest
  | present hx hwhole rest ih =>
      rw [capturesOf_capture] at hg
      obtain ⟨hc, hrest⟩ := List.forall₂_cons.1 hg
      obtain ⟨hfront, hj⟩ := ih hrest
      rw [Option.map_some, spanText_of_isPrefix hwhole] at hc
      simp only [rebuild, hc]
      exact ⟨Way.append_isPrefix_drop.2 ⟨hwhole, hfront⟩, by simp [hj, Nat.add_assoc]⟩

/-- The text of a span that fits is one that its capture's group matches. -/
theorem values_of_fits (hfits : Fits d t parts spans i j) :
    List.Forall₂ (fun c s => ∀ x ∈ s.map (spanText t), x ∈ c.values false d) (capturesOf parts)
      spans := by
  induction hfits with
  | nil i => exact .nil
  | fixed hv rest ih => exact ih
  | missing rest ih => exact .cons (by simp) ih
  | present hx hwhole rest ih =>
      exact .cons (by simpa [spanText_of_isPrefix hwhole] using hx) ih

/-- Pairs with different first parts are found under these. -/
theorem lookup_mapIdx {α : Type} {name : α → Text} {f : Nat → Option Text} {l : List α} {n : Nat}
    {a : α} (h : (l.map name).Nodup) (ha : l[n]? = some a) :
    (l.mapIdx fun n a => (name a, f n)).lookup (name a) = some (f n) := by
  induction l generalizing f n with
  | nil => simp at ha
  | cons b l ih =>
      rw [List.map_cons, List.nodup_cons] at h
      rw [List.mapIdx_cons]
      cases n with
      | zero =>
          obtain rfl : b = a := by simpa using ha
          exact List.lookup_cons_self
      | succ n =>
          have hmem : name a ∈ l.map name := List.mem_map_of_mem (List.mem_of_getElem? ha)
          have hne : name a ≠ name b := fun heq => h.1 (heq ▸ hmem)
          rw [List.lookup_cons, beq_eq_false_iff_ne.2 hne]
          exact ih (f := fun n => f (n + 1)) h.2 ha

/-- What a compiled pattern reports, where the names of its captures differ. -/
theorem reports_of_nodup {m : Found} (hnodup : ((namesOf parts).map (·.display)).Nodup)
    (hlength : (capturesOf parts).length = spans.length)
    (hspan : ∀ n, m.span? (n + 1) = spans[n]?.join) :
    Reports ((keysOf parts).mapIdx fun n key => (key.name.display, m.text? t (n + 1))) t
      (capturesOf parts) spans := by
  rw [namesOf, List.map_map] at hnodup
  refine List.forall₂_iff_get.2 ⟨hlength, fun n hn hn' => ?_⟩
  have hkey : (keysOf parts)[n]? = some ((capturesOf parts)[n]).key := by
    simp [keysOf_eq, hn]
  have hlookup := lookup_mapIdx (f := fun n => m.text? t (n + 1)) hnodup hkey
  have htext : m.text? t (n + 1) = spans[n].map (spanText t) := by
    rw [Found.text?, hspan, List.getElem?_eq_getElem hn']
    rfl
  rw [htext] at hlookup
  exact hlookup

/-- A pattern reports groups for the texts that it matches. -/
theorem exists_groups?_iff {c : Compiled} : (∃ g, c.groups? t = some g) ↔ c.isMatch t := by
  rw [Compiled.isMatch, Program.isMatch, Compiled.groups?, Option.isSome_iff_exists]
  simp [Option.map_eq_some_iff]

/-- The spans of a match from start to end fit the parts, up to what may stand behind them. -/
theorem fits_of_find? {o : MatchOptions} {r : Regex} {m : Found}
    (hfixed : ∀ v m, .fixed v m ∈ parts → m = .once) (hstart : o.fromStart)
    (hr : Matches t r =
      ((o.startWay t).andThen (waysOf false o.delimiters parts t 0)).andThen (o.endWay t))
    (hfind : (Regex.program r).find? t = some m) :
    ∃ k spans, Fits o.delimiters t parts spans 0 k ∧ o.Tolerates (t.drop k) ∧
      ∀ n, m.span? (n + 1) = spans[n]?.join := by
  obtain ⟨i, hi, j, u, hmatch, hslots⟩ := matches_of_find? hfind
  rw [hr] at hmatch
  obtain ⟨k, _, w, ⟨_, _, v, hopening, hway, rfl⟩, hclosing, rfl⟩ := hmatch
  obtain ⟨rfl, rfl, hfrom⟩ := (MatchOptions.startWay_iff hi).1 hopening
  obtain rfl := hfrom hstart
  obtain ⟨spans, rfl, hfits⟩ := fits_of_waysOf hfixed hway
  have hkle : k ≤ t.length := by
    obtain ⟨_, -, hfront, rfl⟩ := (passes_parts parts t 0 0 k).1 ⟨_, hway⟩
    simpa using hfront.length_le
  obtain ⟨rfl, rfl, htolerates⟩ := (MatchOptions.endWay_iff hkle).1 hclosing
  refine ⟨k, spans, hfits, htolerates, fun n => ?_⟩
  rw [← span?_slotsOf (i := 0) (j := t.length)]
  simp [Found.span?, hslots]

/-- A segment that comes at most once is reported as a text without delimiters, if at all. -/
theorem segment_of_reports {g : Groups} {c : Capture} {x : Text}
    (hvalues : List.Forall₂ (fun c s => ∀ x ∈ s.map (spanText t), x ∈ c.values false d)
      (capturesOf parts) spans)
    (hreports : Reports g t (capturesOf parts) spans) (hc : .capture c ∈ parts)
    (hkind : c.kind = .segment) (hrepeating : ¬ c.modifier.isRepeating)
    (hx : g.lookup c.name.display = some (some x)) : x ≠ [] ∧ ∀ y ∈ x, y ∉ d := by
  have hmem : c ∈ capturesOf parts := List.mem_filterMap.2 ⟨_, hc, rfl⟩
  obtain ⟨n, hn, rfl⟩ := List.getElem_of_mem hmem
  have hn' : n < spans.length := hvalues.length_eq ▸ hn
  have hreport := (List.forall₂_iff_get.1 hreports).2 n hn hn'
  have hsome : (spans.get ⟨n, hn'⟩).map (spanText t) = some x :=
    Option.some.inj (hreport.symm.trans hx)
  have hvalue := (List.forall₂_iff_get.1 hvalues).2 n hn hn' x hsome
  rw [List.get_eq_getElem, Capture.values_of_not_isRepeating hrepeating, hkind] at hvalue
  obtain ⟨hne, hall⟩ := mem_kind_language.1 hvalue
  refine ⟨hne, fun y hy => ?_⟩
  have hnot := hall y hy
  split at hnot
  · rename_i hnil
    rw [hnil]
    exact List.not_mem_nil
  · exact hnot

/-- **The groups of a match rebuild the input.** Let a pattern hold no regular expressions of its
own and no fixed text with a modifier. What a match from start to end reports, put back between the
fixed texts, is the input, or the input without a delimiter at its end unless the match is strict;
and a segment that comes at most once is reported as a text that is not empty and holds no
delimiter. -/
theorem rebuild_groups {ro : ReadOptions} {pattern : Text} {o : MatchOptions}
    (hparse : parse ro pattern = .ok parts) (hparts : NoCustom parts)
    (hfixed : ∀ v m, .fixed v m ∈ parts → m = .once) (hsensitive : o.sensitive)
    (hstart : o.fromStart) (hend : o.toEnd) (hdelimiters : o.delimiters = ro.delimiters) :
    ∃ c, compile o parts = .ok c ∧ ∀ h g, c.groups? h = some g →
      (rebuild g parts = h ∨
        (o.strict = false ∧ ∃ x ∈ o.delimiters, h = rebuild g parts ++ [x])) ∧
      ∀ capture, .capture capture ∈ parts → capture.kind = .segment →
        ¬ capture.modifier.isRepeating → ∀ x, g.lookup capture.name.display = some (some x) →
          x ≠ [] ∧ ∀ y ∈ x, y ∉ ro.delimiters := by
  obtain ⟨r, hcompile, hr⟩ := compile_of_noCustom hsensitive hend hparts
  refine ⟨_, hcompile, fun h g hg => ?_⟩
  obtain ⟨m, hfind, rfl⟩ := Option.map_eq_some_iff.1 hg
  obtain ⟨k, spans, hfits, htolerates, hspan⟩ := fits_of_find? hfixed hstart (hr h) hfind
  have hvalues := values_of_fits hfits
  have hreports := reports_of_nodup (t := h) (nodup_display (wellFormed_of_parse hparse))
    hvalues.length_eq hspan
  refine ⟨?_, fun capture hcapture hkind hrepeating x hx =>
    hdelimiters ▸ segment_of_reports hvalues hreports hcapture hkind hrepeating hx⟩
  obtain ⟨⟨rest, hrest⟩, rfl⟩ := rebuild_of_fits hfits hreports
  rw [List.drop_zero] at hrest
  rw [Nat.zero_add] at htolerates
  generalize rebuild _ parts = built at hrest htolerates ⊢
  subst hrest
  rw [List.drop_left] at htolerates
  rcases htolerates with rfl | ⟨hstrict, y, hy, rfl⟩
  · exact .inl (List.append_nil _).symm
  · exact .inr ⟨hstrict, y, hy, rfl⟩

/-- The slash that a capture takes along is put back: `/:a` on `/x`. -/
theorem rebuild_groups_of_lead :
    let parts := [.capture ⟨.named ['a'], ['/'], [], .segment, .once⟩]
    parse .default ['/', ':', 'a'] = .ok parts ∧ NoCustom parts ∧
      (∀ v m, .fixed v m ∈ parts → m = .once) ∧ ∃ c g, compile .default parts = .ok c ∧
        c.groups? ['/', 'x'] = some g ∧ rebuild g parts = ['/', 'x'] := by
  intro parts
  have hspells : Spells [.plain ['/'], .bare (.name ['a']) .once] ['/', ':', 'a'] :=
    .plain (by decide) (.bare (t := []) (.name ⟨by decide, by decide⟩)
      ⟨by decide, by decide⟩ (fun _ => by decide) .nil)
  have hparse : parse .default ['/', ':', 'a'] = .ok parts := parse_of_spells .default hspells
  have hparts : NoCustom parts := by simp [NoCustom, parts, Part.capture?, CaptureKind.isCustom]
  have hfixed : ∀ v m, .fixed v m ∈ parts → m = .once := by simp [parts]
  obtain ⟨c, hcompile, hc⟩ :=
    rebuild_groups (o := .default) hparse hparts hfixed rfl rfl rfl rfl
  have hgroups : ∃ g, c.groups? ['/', 'x'] = some g := by
    obtain ⟨r, hcompile', hr⟩ := compile_of_noCustom (o := .default) rfl rfl hparts
    obtain rfl := Except.ok.inj (hcompile.symm.trans hcompile')
    refine exists_groups?_iff.2 ((isMatch_iff_of_ways (hr _)).2
      ⟨[], ['/', 'x'], [], rfl, ?_, fun _ => rfl, .inl rfl⟩)
    have hunit : ['/', 'x'] ∈
        (Part.capture ⟨.named ['a'], ['/'], [], .segment, .once⟩).unit defaultDelimiters :=
      ⟨['x'], by simp [CaptureKind.StandsFor, defaultDelimiters], rfl⟩
    have hlanguage : ['/', 'x'] ∈
        (Part.capture ⟨.named ['a'], ['/'], [], .segment, .once⟩).language defaultDelimiters :=
      ⟨1, by simp [Part.modifier], by rwa [pow_one]⟩
    exact Language.append_mem_mul hlanguage Language.nil_mem_one
  obtain ⟨g, hg⟩ := hgroups
  refine ⟨hparse, hparts, hfixed, c, g, hcompile, hg, ?_⟩
  rcases (hc _ _ hg).1 with h | ⟨-, x, hx, h⟩
  · exact h
  · have hlast : 'x' = x := by simpa using congrArg List.getLast? h
    exact absurd hx (hlast ▸ by decide)

end UrlMatch.Pattern
