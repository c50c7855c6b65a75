import UrlMatch.Proofs.Pattern.Closed
import UrlMatch.Proofs.Pattern.Ways

/-!
# The group of a capture

Each capture is written as one group that records, with a piece of expression in front of the group
and one behind it. `Records b e n` says that the expression `e` is read as items that open `n`
groups which record, and that the items hold all of these groups.

## Main results

* `Capture.source_eq`: the group in the expression of a capture.
* `records_parts`: parts whose captures fill their groups hold one group for each capture.
-/

namespace UrlMatch.Pattern

open Regex

variable {b : Bool} {d e e' : Text} {n n' : Nat}

/-! ### Where the group stands -/

namespace Capture

/-- What stands in front of the group. -/
def front (c : Capture) : Text :=
  if c.lead = [] ∧ c.trail = [] then [] else ['(', '?', ':'] ++ Regex.escape c.lead

/-- What stands behind the group. -/
def back (c : Capture) : Text :=
  (if c.lead = [] ∧ c.trail = [] then [] else Regex.escape c.trail ++ [')']) ++
    if c.MayMiss then ['?'] else []

/-- **The group in the expression of a capture.** -/
theorem source_eq (segment : Text) (c : Capture) :
    c.source segment = c.front ++ recordingGroup (c.inner segment) ++ c.back := by
  rw [source_eq_whole, whole, front, back]
  split <;> simp [plainGroup]

end Capture

/-! ### Balanced texts -/

/-- What closes more parentheses than it opens has a closing one in it. -/
theorem Balanced.eq_append {depth : Nat} {v : Text} (h : Balanced (depth + 1) v) :
    ∃ u w, v = u ++ ')' :: w := by
  generalize hn : depth + 1 = n at h
  induction h generalizing depth with
  | nil => omega
  | @escape _ v c _ ih =>
      obtain ⟨u, w, rfl⟩ := ih hn
      exact ⟨'\\' :: c :: u, w, rfl⟩
  | @closing _ v _ _ => exact ⟨[], v, rfl⟩
  | opening _ _ ih =>
      obtain ⟨u, w, rfl⟩ := ih rfl
      exact ⟨'(' :: u, w, rfl⟩
  | @other _ _ c _ _ _ _ ih =>
      obtain ⟨u, w, rfl⟩ := ih hn
      exact ⟨c :: u, w, rfl⟩

theorem Balanced.append {depth depth' : Nat} {v w : Text} (hv : Balanced depth v)
    (hw : Balanced depth' w) : Balanced (depth + depth') (v ++ w) := by
  induction hv with
  | nil => rwa [Nat.zero_add]
  | escape c _ ih => exact .escape c ih
  | closing _ ih =>
      rw [Nat.add_right_comm] at *
      exact .closing ih
  | @opening depth v hopen hv ih =>
      obtain ⟨u, u', rfl⟩ := hv.eq_append
      have hopen' : isNonCapturing (u ++ ')' :: (u' ++ w ++ [')'])) := by
        rw [isNonCapturing_append u _ (u' ++ [')'])]
        simpa using hopen
      rw [Nat.add_right_comm] at ih
      exact .opening (by simpa using hopen') ih
  | other h1 h2 h3 _ ih => exact .other h1 h2 h3 ih

theorem balanced_escape (v : Text) : Balanced 0 (Regex.escape v) := by
  induction v with
  | nil => exact .nil
  | cons c v ih =>
      rw [Regex.escape, List.flatMap_cons]
      split
      · exact .escape c ih
      · rename_i hmeta
        refine .other ?_ ?_ ?_ ih
        all_goals
          rintro rfl
          exact hmeta (by decide)

theorem Balanced.plainGroup {w : Text} (h : Balanced 0 w) : Balanced 0 (plainGroup w) := by
  have hclosing : Balanced (0 + 1) (w ++ [')']) := h.append (.closing .nil)
  exact .opening rfl (.other (by decide) (by decide) (by decide)
    (.other (by decide) (by decide) (by decide) hclosing))

theorem balanced_modifier (m : Modifier) : Balanced 0 m.text := by
  cases m with
  | once => exact .nil
  | optional | zeroOrMore | oneOrMore =>
      exact .other (by decide) (by decide) (by decide) .nil

/-- What a capture matches by a regular expression of its own stands balanced in its group. -/
theorem Capture.balanced_inner {c : Capture} (segment : Text)
    (h : ∀ r, c.kind = .custom r → IsRegexp r) (hcustom : c.kind.isCustom) :
    Balanced 0 (c.inner segment) := by
  have hregexp : Balanced 0 (c.kind.regexp segment) := by
    cases hkind : c.kind with
    | segment | wildcard => simp [hkind, CaptureKind.isCustom] at hcustom
    | custom r => exact (h r hkind).balanced
  have hbody := hregexp.plainGroup
  have hstar : Balanced 0 ['*'] := balanced_modifier .zeroOrMore
  rw [inner]
  split
  · exact hregexp
  · split
    · exact hbody.append (balanced_modifier c.modifier)
    · exact hbody.append ((((balanced_escape c.trail).append (balanced_escape c.lead)).append
        hbody).plainGroup.append hstar)

/-! ### Groups that are held -/

/-- A text is read as items that open `n` groups which record, and the items hold all of them. -/
def Records (b : Bool) (e : Text) (n : Nat) : Prop :=
  ∃ items, Reads b e n items ∧ ∀ k, k + n ≤ max k (lastGroup (sequence (items k)))

namespace Records

theorem of_reads {items : Nat → List Regex} (h : Reads b e 0 items) : Records b e 0 :=
  ⟨items, h, fun k => Nat.le_max_left k _⟩

theorem append (h : Records b e n) (h' : Records b e' n') : Records b (e ++ e') (n + n') := by
  obtain ⟨items, hr, hk⟩ := h
  obtain ⟨items', hr', hk'⟩ := h'
  refine ⟨_, hr.append hr', fun k => ?_⟩
  have hfirst := hk k
  have hsecond := hk' (k + n)
  rw [lastGroup_sequence_append]
  omega

end Records

/-- A capture that fills its group holds it. -/
theorem records_capture {c : Capture} {r : Nat → Regex} (segment : Text)
    (h : ReadsGroup b (c.inner segment) 0 r) : Records b (c.source segment) 1 := by
  have hgroup := h.recording
  obtain ⟨r', hwhole, hheld⟩ : ∃ r', ReadsAtom b (c.whole segment) 1 r' ∧
      ∀ k, k + 1 ≤ lastGroup (r' k) := by
    rw [Capture.whole]
    split
    · exact ⟨_, hgroup, fun k => Nat.le_max_left _ _⟩
    · refine ⟨_, (((Reads.escape c.lead).append hgroup.reads).append
        (.escape c.trail)).group.plain, fun k => ?_⟩
      simp only [lastGroup_sequence_append, lastGroup_sequence_cons, lastGroup]
      omega
  rw [Capture.source_eq_whole]
  split
  · have hlast (r : Regex) : lastGroup (.repeated r 0 (some 1) true) = lastGroup r := by
      simp [lastGroup]
    refine ⟨_, hwhole.repeated 0 (some 1) fun s rest => rfl, fun k => ?_⟩
    have hk := hheld k
    rw [lastGroup_sequence_cons, hlast]
    omega
  · rw [List.append_nil]
    refine ⟨_, hwhole.reads, fun k => ?_⟩
    have hk := hheld k
    rw [lastGroup_sequence_cons]
    omega

/-- **Parts whose captures fill their groups** hold one group for each capture. -/
theorem records_parts {parts : List Part}
    (h : ∀ p ∈ parts, ∀ c ∈ p.capture?, ∃ r, ReadsGroup b (c.inner (segmentRegexp d)) 0 r) :
    Records b (parts.flatMap (·.source (segmentRegexp d))) (keysOf parts).length := by
  induction parts with
  | nil => exact .of_reads .nil
  | cons p parts ih =>
      obtain ⟨hp, hparts⟩ := List.forall_mem_cons.1 h
      have hrest := ih hparts
      cases p with
      | fixed value m =>
          obtain ⟨items, hreads, -⟩ :=
            denotes_part (b := b) (d := d) (p := .fixed value m) (by simp [Part.capture?])
          have hall := (Records.of_reads hreads).append hrest
          rwa [Nat.zero_add] at hall
      | capture c =>
          obtain ⟨r, hr⟩ := hp c rfl
          have hall := (records_capture _ hr).append hrest
          rwa [Nat.add_comm] at hall

/-! ### Captures that fill their groups -/

/-- What a capture matches starts with no question mark, and so does its group. -/
theorem Capture.head_inner_ne {c : Capture} (h : ∀ r, c.kind = .custom r → IsRegexp r) :
    (c.inner (segmentRegexp d)).head? ≠ some '?' := by
  rw [inner]
  split
  · cases hkind : c.kind with
    | segment | wildcard =>
        have hplain : ¬ c.kind.isCustom := by simp [hkind, CaptureKind.isCustom]
        obtain ⟨_, hreads, -⟩ := denotes_kind (b := false) (d := d) hplain
        exact hkind ▸ hreads.head_ne
    | custom r => exact (h r hkind).head_ne
  · split <;> simp [Pattern.plainGroup]

/-- A capture fills its group if the regular expression of its own, where it has one, does. -/
theorem Capture.readsGroup {c : Capture} (h : ∀ r, c.kind = .custom r → IsRegexp r)
    (hclosed : c.kind.isCustom → Closed (.plain b) (c.inner (segmentRegexp d))) :
    ∃ r, ReadsGroup b (c.inner (segmentRegexp d)) 0 r := by
  by_cases hcustom : c.kind.isCustom
  · obtain ⟨_, hread⟩ :=
      (hclosed hcustom).readsGroup (c.head_inner_ne h) (c.balanced_inner _ h hcustom)
    exact ⟨_, hread⟩
  · obtain ⟨items, hreads, -⟩ := c.denotes_inner (b := b) (d := d) hcustom
    exact ⟨_, hreads.group⟩

end UrlMatch.Pattern
