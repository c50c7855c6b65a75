import UrlMatch.Pattern.Compiled
import UrlMatch.Proofs.Pattern.Delimiters

/-!
# The ways of parts

What the regular expression of each part denotes. A capture is written in one of five shapes, which
depend on its modifier and on whether there is fixed text around it; all of them have the same form:
the fixed text in front, a group that records, the fixed text behind, and all of this at most once
if the capture may be missing. What differs is what stands in the group, `Capture.inner`, and the
language of it, `Capture.values`.

## Main results

* `Capture.source_eq_whole`: the form that all shapes have in common.
* `denotes_capture`: the expression of a capture goes the way `Capture.way`.
* `denotes_parts`: parts go the ways of the single parts, one after the other.
-/

namespace UrlMatch.Pattern

open Regex

variable {b : Bool} {d : Text}

/-! ### Modifiers -/

namespace Modifier

@[simp] theorem allows_once : once.Allows = (· = 1) := by
  funext n
  simp only [Allows, isOptional, isRepeating, eq_iff_iff]
  grind

@[simp] theorem allows_optional : optional.Allows = (· ≤ 1) := by
  funext n
  simp [Allows, isOptional, isRepeating]

@[simp] theorem allows_zeroOrMore : zeroOrMore.Allows = fun _ => True := by
  funext n
  simp [Allows, isOptional, isRepeating]

@[simp] theorem allows_oneOrMore : oneOrMore.Allows = (1 ≤ ·) := by
  funext n
  simp [Allows, isOptional, isRepeating, Nat.one_le_iff_ne_zero]

end Modifier

/-- An atom behind which a modifier is written. -/
theorem denotes_modified {e : Text} {n : Nat} {W : Text → Nat → Way} (h : DenotesAtom b e n W)
    (m : Modifier) : Denotes b (e ++ m.text) n fun t k => (W t k).repeated m.Allows := by
  cases m with
  | once => simpa [Modifier.text] using h.denotes
  | optional => simpa [Modifier.text] using h.optional
  | zeroOrMore => simpa [Modifier.text] using h.star
  | oneOrMore => simpa [Modifier.text] using h.plus

/-! ### Captures -/

/-- What a capture of a kind matches. Of a regular expression of its own nothing is said. -/
def CaptureKind.language (b : Bool) (d : Text) : CaptureKind → Language Char
  | segment => segmentLanguage b d
  | wildcard => wildcardLanguage
  | custom _ => 0

namespace Capture

/-- What the group of a capture matches. -/
def values (b : Bool) (d : Text) (c : Capture) : Language Char :=
  let x := c.kind.language b d
  if ¬ c.modifier.isRepeating then x
  else if c.lead = [] ∧ c.trail = [] then Counted c.modifier.Allows x
  else x * Counted (fun _ => True) (variantsOf b c.trail * variantsOf b c.lead * x)

theorem values_of_not_isRepeating {c : Capture} (h : ¬ c.modifier.isRepeating) :
    c.values b d = c.kind.language b d := by
  simp [values, h]

/-- The group of a capture need not take part in a match. -/
def MayMiss (c : Capture) : Prop :=
  c.modifier = .optional ∨ (c.modifier = .zeroOrMore ∧ ¬ (c.lead = [] ∧ c.trail = []))

instance (c : Capture) : Decidable c.MayMiss := inferInstanceAs (Decidable (_ ∨ _))

/-- The way of a capture that takes part. -/
def present (b : Bool) (d : Text) (c : Capture) (t : Text) (k : Nat) : Way :=
  (Way.text t (variantsOf b c.lead)).andThen
    (((Way.text t (c.values b d)).group (k + 1)).andThen (.text t (variantsOf b c.trail)))

/-- The way of a capture. -/
def way (b : Bool) (d : Text) (c : Capture) (t : Text) (k : Nat) : Way :=
  if c.MayMiss then (c.present b d t k).repeated (· ≤ 1) else c.present b d t k

end Capture

/-- What a capture matches is written as a regular expression that matches just this. -/
theorem denotes_kind {kind : CaptureKind} (h : ¬ kind.isCustom) :
    Denotes b (kind.regexp (segmentRegexp d)) 0 fun t _ => .text t (kind.language b d) := by
  cases kind with
  | segment => exact denotes_segmentRegexp
  | wildcard => exact denotes_wildcardRegexp
  | custom r => exact absurd rfl h

theorem escape_eq_nil {v : Text} : Regex.escape v = [] ↔ v = [] := by
  cases v with
  | nil => simp [Regex.escape]
  | cons c v =>
      simp only [Regex.escape, List.flatMap_cons, List.append_eq_nil_iff, reduceCtorEq, iff_false]
      split <;> simp

theorem variantsOf_nil : variantsOf b [] = 1 := rfl

namespace Capture

/-- What stands between the parentheses of the group; `segment` is the expression of a segment. -/
def inner (segment : Text) (c : Capture) : Text :=
  let body := c.kind.regexp segment
  if ¬ c.modifier.isRepeating then body
  else if c.lead = [] ∧ c.trail = [] then plainGroup body ++ c.modifier.text
  else plainGroup body ++
    (plainGroup (Regex.escape c.trail ++ Regex.escape c.lead ++ plainGroup body) ++ ['*'])

/-- The expression of a capture that takes part: its group, and fixed text around it. -/
def whole (segment : Text) (c : Capture) : Text :=
  if c.lead = [] ∧ c.trail = [] then recordingGroup (c.inner segment)
  else plainGroup (Regex.escape c.lead ++ recordingGroup (c.inner segment) ++ Regex.escape c.trail)

/-- **The shapes of a capture** have one form in common. -/
theorem source_eq_whole (segment : Text) (c : Capture) :
    c.source segment = c.whole segment ++ if c.MayMiss then ['?'] else [] := by
  obtain ⟨name, lead, trail, kind, m⟩ := c
  by_cases hfixed : lead = [] ∧ trail = []
  · cases m <;>
      simp [source, whole, inner, MayMiss, hfixed, Modifier.isRepeating, escape_eq_nil]
  · cases m <;>
      simp [source, whole, inner, MayMiss, hfixed, Modifier.isRepeating, escape_eq_nil,
        Modifier.text]

/-- What stands between the parentheses matches the values of the capture. -/
theorem denotes_inner {c : Capture} (h : ¬ c.kind.isCustom) :
    Denotes b (c.inner (segmentRegexp d)) 0 fun t _ => .text t (c.values b d) := by
  have hbody := denotes_kind (b := b) (d := d) h
  rw [inner]
  split
  · rename_i hm
    exact hbody.congr rfl fun t k => by rw [values_of_not_isRepeating hm]
  · rename_i hm
    split
    · rename_i hfixed
      refine (denotes_modified hbody.plainGroup c.modifier).congr rfl fun t k => ?_
      rw [values, if_neg hm, if_pos hfixed, Way.text_repeated]
    · rename_i hfixed
      have hagain := (((Denotes.escape c.trail).append (.escape c.lead)).append
        hbody.plainGroup.denotes).plainGroup.star
      refine (hbody.plainGroup.denotes.append hagain).congr rfl fun t k => ?_
      rw [values, if_neg hm, if_neg hfixed, Way.text_mul, Way.text_repeated, Way.text_mul,
        Way.text_mul]

/-- A capture that takes part goes through its group, and the fixed text around it. -/
theorem denotes_whole {c : Capture} (h : ¬ c.kind.isCustom) :
    DenotesAtom b (c.whole (segmentRegexp d)) 1 (c.present b d) := by
  have hgroup := (c.denotes_inner (b := b) (d := d) h).recordingGroup
  rw [whole]
  split
  · rename_i hfixed
    refine hgroup.congr fun t k => ?_
    simp [present, hfixed, variantsOf_nil, Way.text_one]
  · have hsurrounded := (((Denotes.escape c.lead).append hgroup.denotes).append
      (.escape c.trail)).plainGroup
    refine hsurrounded.congr fun t k => ?_
    rw [present, Way.andThen_assoc]

end Capture

/-- **The expression of a capture** goes its way. -/
theorem denotes_capture {c : Capture} (h : ¬ c.kind.isCustom) :
    Denotes b (c.source (segmentRegexp d)) 1 (c.way b d) := by
  have hwhole := c.denotes_whole (b := b) (d := d) h
  rw [Capture.source_eq_whole]
  split
  · rename_i hmiss
    exact hwhole.optional.congr rfl fun t k => by rw [Capture.way, if_pos hmiss]
  · rename_i hmiss
    rw [List.append_nil]
    exact hwhole.denotes.congr rfl fun t k => by rw [Capture.way, if_neg hmiss]

/-! ### Parts -/

namespace Part

/-- The number of groups that record. -/
def groups : Part → Nat
  | fixed _ _ => 0
  | capture _ => 1

/-- The way of a part. -/
def way (b : Bool) (d : Text) : Part → Text → Nat → Way
  | fixed value m, t, _ => (Way.text t (variantsOf b value)).repeated m.Allows
  | capture c, t, k => c.way b d t k

end Part

/-- The ways of parts, one after the other. -/
def waysOf (b : Bool) (d : Text) : List Part → Text → Nat → Way
  | [], _, _ => .stay
  | p :: parts, t, k => (p.way b d t k).andThen (waysOf b d parts t (k + p.groups))

/-- No capture is described by a regular expression of its own. -/
def NoCustom (parts : List Part) : Prop := ∀ p ∈ parts, ∀ c ∈ p.capture?, ¬ c.kind.isCustom

theorem denotes_part {p : Part} (h : ∀ c ∈ p.capture?, ¬ c.kind.isCustom) :
    Denotes b (p.source (segmentRegexp d)) p.groups (p.way b d) := by
  cases p with
  | capture c => exact denotes_capture (h c rfl)
  | fixed value m =>
      have hvalue := Denotes.escape (b := b) value
      cases m with
      | once => exact hvalue.congr rfl fun t k => by simp [Part.way]
      | optional => exact denotes_modified hvalue.plainGroup .optional
      | zeroOrMore => exact denotes_modified hvalue.plainGroup .zeroOrMore
      | oneOrMore => exact denotes_modified hvalue.plainGroup .oneOrMore

/-- **Parts go their ways one after the other.** -/
theorem denotes_parts {parts : List Part} (h : NoCustom parts) :
    Denotes b (parts.flatMap (·.source (segmentRegexp d))) (keysOf parts).length
      (waysOf b d parts) := by
  induction parts with
  | nil => exact .nil
  | cons p parts ih =>
      have hp := denotes_part (b := b) (d := d) (h p List.mem_cons_self)
      have hall := hp.append (ih fun q hq => h q (List.mem_cons_of_mem _ hq))
      refine hall.congr ?_ fun t k => rfl
      cases p with
      | fixed v m => exact Nat.zero_add _
      | capture c => exact Nat.add_comm 1 _

end UrlMatch.Pattern
