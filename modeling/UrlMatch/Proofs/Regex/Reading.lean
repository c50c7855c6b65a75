import Mathlib.Logic.Relation
import UrlMatch.Proofs.Regex.Language
import UrlMatch.Regex.Parser

/-!
# What written expressions denote

An expression is built from items: escaped characters, classes, groups, and items with a repetition
behind them. `DenotesItem b e n W` says that the text `e` is read as a single item with `n` groups
that record, and that the item goes the way `W t k` on a text `t` when `k` groups are opened before
it; `Denotes` says the same of a sequence of items. Both speak of reading without extended syntax,
where only the difference of case may be set off.

## Main results

* `Denotes.append`, `Denotes.plainGroup`, `Denotes.recordingGroup`, `DenotesItem.star` and others:
  what a composed expression denotes, from its parts.
* `Denotes.parse?`: an expression that denotes a way is accepted and goes this way.
-/

namespace UrlMatch.Regex

/-! ### Sequences of expressions -/

@[simp] theorem matches_sequence_nil (t : Text) : Matches t (sequence []) = .stay := rfl

@[simp] theorem matches_sequence_singleton (t : Text) (r : Regex) :
    Matches t (sequence [r]) = Matches t r :=
  Way.andThen_stay _

theorem matches_sequence_append (t : Text) (as bs : List Regex) :
    Matches t (sequence (as ++ bs)) =
      (Matches t (sequence as)).andThen (Matches t (sequence bs)) := by
  induction as with
  | nil => exact (Way.stay_andThen _).symm
  | cons a as ih =>
      have h (cs : List Regex) : Matches t (sequence (a :: cs)) =
          (Matches t a).andThen (Matches t (sequence cs)) := rfl
      rw [List.cons_append, h, h, ih, Way.andThen_assoc]

/-! ### Reading -/

/-- The flags at the start of an expression, with or without the difference of case. -/
def Flags.plain (ignoreCase : Bool) : Flags := { Flags.initial with ignoreCase }

/-- A closing parenthesis is never ignored. -/
@[simp] theorem Flags.skip_closing (f : Flags) (t : Text) : f.skip (')' :: t) = ')' :: t := by
  have h : Unicode.isBlank ')' = false := by decide
  simp [skip, dropIgnored, h]

@[simp] theorem Flags.skip_plain (b : Bool) (t : Text) : (Flags.plain b).skip t = t := rfl

namespace Reader

/-- A reader that has read further items, with `n` groups among them that record. -/
def add (s : Reader) (items : List Regex) (n : Nat) : Reader :=
  { s with items := (items.map some).reverse ++ s.items, groups := s.groups + n }

@[simp] theorem flags_add (s : Reader) (items : List Regex) (n : Nat) :
    (s.add items n).flags = s.flags := rfl

@[simp] theorem groups_add (s : Reader) (items : List Regex) (n : Nat) :
    (s.add items n).groups = s.groups + n := rfl

@[simp] theorem add_nil (s : Reader) : s.add [] 0 = s := rfl

theorem add_add (s : Reader) (as bs : List Regex) (m n : Nat) :
    (s.add as m).add bs n = s.add (as ++ bs) (m + n) := by
  simp [add, Nat.add_assoc]

/-- One element is read, behind what is ignored in front of it. -/
def Goes (x y : Reader × Text) : Prop :=
  step x.1 (x.1.flags.skip x.2) = some y ∧ y.2.length < x.2.length

/-- A number of elements are read. -/
abbrev Reaches : Reader × Text → Reader × Text → Prop := Relation.ReflTransGen Goes

/-- A reader goes on behind the element that it has read. -/
theorem run_of_goes {x y : Reader × Text} (h : Goes x y) : x.1.run x.2 = y.1.run y.2 := by
  obtain ⟨hstep, hlt⟩ := h
  rw [run]
  cases hskip : x.1.flags.skip x.2 with
  | nil => simp [hskip, step] at hstep
  | cons c rest =>
      rw [hskip] at hstep
      simp only [hstep, if_pos hlt]

theorem run_of_reaches {x y : Reader × Text} (h : Reaches x y) : x.1.run x.2 = y.1.run y.2 := by
  induction h with
  | refl => rfl
  | tail _ hgoes ih => exact ih.trans (run_of_goes hgoes)

theorem goes_of_step {s s' : Reader} {b : Bool} {t rest : Text} (h : s.flags = .plain b)
    (hstep : step s t = some (s', rest)) (hlt : rest.length < t.length) :
    Goes (s, t) (s', rest) := by
  refine ⟨?_, hlt⟩
  simp only [h, Flags.skip_plain, hstep]

theorem reaches_of_step {s s' : Reader} {b : Bool} {t rest : Text} (h : s.flags = .plain b)
    (hstep : step s t = some (s', rest)) (hlt : rest.length < t.length) :
    Reaches (s, t) (s', rest) :=
  .single (goes_of_step h hstep hlt)

/-- A group that closes is an item of the group around it. -/
theorem closeGroup?_of_outer {s s' : Reader} {index : Option Nat} {r : Regex} {n : Nat}
    (houter : s'.outer = ⟨index, s.flags, s.alternatives, s.items⟩ :: s.outer)
    (hr : (match index with | some i => .group i s'.current | none => s'.current) = r)
    (hgroups : s'.groups = s.groups + n) (hnames : s'.names = s.names) :
    s'.closeGroup? = some (s.add [r] n) := by
  subst hr
  cases index <;> simp [closeGroup?, houter, add, hgroups, hnames]

theorem run_nil {s : Reader} {b : Bool} (h : s.flags = .plain b) : s.run [] = some s := by
  rw [run, h]
  rfl

/-- An expression that a reader has read to its end is accepted if nothing is left open. -/
theorem parse?_of_reaches {s : Reader} {b : Bool} {t : Text} (h : Reaches (.initial, t) (s, []))
    (hs : s.flags = .plain b) (houter : s.outer = []) : parse? t = some s.current := by
  have hrun : Reader.initial.run t = some s := (run_of_reaches h).trans (run_nil hs)
  simp [parse?, hrun, houter]

end Reader

/-- A parenthesis without a question mark behind it opens a group that records. -/
theorem readGroup_of_head_ne {s : Reader} {b : Bool} {t : Text} (hs : s.flags = .plain b)
    (ht : t.head? ≠ some '?') : readGroup s t = some (s.openCapture, t) := by
  rw [readGroup]
  rw [hs, Flags.skip_plain]
  split <;> simp_all

theorem standsForItself_of_isMeta {c : Char} (h : isMeta c) : standsForItself c := by
  have hall : ['\\', '.', '+', '*', '?', '(', ')', '|', '[', ']', '\x7b', '\x7d', '^', '$', '#',
      '&', '-', '~'].all standsForItself := by decide
  exact List.all_eq_true.1 hall c (of_decide_eq_true h)

/-- A character without a meaning is read as itself. -/
theorem step_of_not_isMeta {s : Reader} {c : Char} {rest : Text} (h : ¬ isMeta c) :
    step s (c :: rest) = (s.flags.literal? c false).map fun r => (s.push r, rest) := by
  unfold step
  split <;> simp_all [isMeta]

/-- A text is read as a single item, whatever stands behind it. The item may depend on the number
of groups opened before. -/
structure ReadsAtom (b : Bool) (e : Text) (n : Nat) (r : Nat → Regex) : Prop where
  ne_nil : e ≠ []
  head_ne : e.head? ≠ some '?'
  reaches {s : Reader} (rest : Text) (hs : s.flags = .plain b) :
    Reader.Reaches (s, e ++ rest) (s.add [r s.groups] n, rest)

/-- A text is read as items. Behind it there must be no question mark, which would belong to its
last operator. -/
structure Reads (b : Bool) (e : Text) (n : Nat) (items : Nat → List Regex) : Prop where
  head_ne : e.head? ≠ some '?'
  reaches {s : Reader} {rest : Text} (hs : s.flags = .plain b) (hrest : rest.head? ≠ some '?') :
    Reader.Reaches (s, e ++ rest) (s.add (items s.groups) n, rest)

/-- A text is read as all that stands in a group, up to the parenthesis that closes it. -/
structure ReadsGroup (b : Bool) (e : Text) (n : Nat) (r : Nat → Regex) : Prop where
  head_ne : e.head? ≠ some '?'
  reaches {s : Reader} (rest : Text) (hs : s.flags = .plain b) (halternatives : s.alternatives = [])
    (hitems : s.items = []) :
    ∃ s', Reader.Reaches (s, e ++ ')' :: rest) (s', ')' :: rest) ∧ s'.outer = s.outer ∧
      s'.current = r s.groups ∧ s'.groups = s.groups + n ∧ s'.names = s.names

variable {b : Bool} {e e' : Text} {n n' : Nat}

namespace Reads

variable {items items' : Nat → List Regex}

theorem nil : Reads b [] 0 fun _ => [] := ⟨by simp, fun _ _ => .refl⟩

theorem append (h : Reads b e n items) (h' : Reads b e' n' items') :
    Reads b (e ++ e') (n + n') fun k => items k ++ items' (k + n) where
  head_ne := by
    cases e with
    | nil => exact h'.head_ne
    | cons c e => exact h.head_ne
  reaches {s rest} hs hrest := by
    have hhead : (e' ++ rest).head? ≠ some '?' := by
      cases e' with
      | nil => exact hrest
      | cons c e' => exact h'.head_ne
    have hbehind := h'.reaches (s := s.add (items s.groups) n) hs hrest
    rw [Reader.add_add, Reader.groups_add] at hbehind
    exact List.append_assoc e e' rest ▸ (h.reaches hs hhead).trans hbehind

/-- Items fill a group. -/
theorem group (h : Reads b e n items) : ReadsGroup b e n fun k => sequence (items k) where
  head_ne := h.head_ne
  reaches {s} rest hs halternatives hitems :=
    ⟨_, h.reaches hs (by simp), rfl,
      by simp [Reader.current, Reader.add, halternatives, hitems, choice], rfl, rfl⟩

/-- Two alternatives fill a group. -/
theorem alternative (h : Reads b e n items) (h' : Reads b e' n' items') :
    ReadsGroup b (e ++ '|' :: e') (n + n') fun k =>
      choice [sequence (items k), sequence (items' (k + n))] where
  head_ne := by
    cases e with
    | nil => simp
    | cons c e => exact h.head_ne
  reaches {s} rest hs halternatives hitems := by
    have hbar : ('|' :: (e' ++ ')' :: rest)).head? ≠ some '?' := by simp
    have hclosing : (')' :: rest).head? ≠ some '?' := by simp
    have hfirst := h.reaches hs hbar
    have hnext : Reader.Goes (s.add (items s.groups) n, '|' :: (e' ++ ')' :: rest))
        ((s.add (items s.groups) n).nextAlternative, e' ++ ')' :: rest) :=
      Reader.goes_of_step hs rfl (by simp)
    have hsecond := h'.reaches (s := (s.add (items s.groups) n).nextAlternative) hs hclosing
    rw [List.append_assoc, List.cons_append]
    refine ⟨_, (hfirst.tail hnext).trans hsecond, rfl, ?_, ?_, rfl⟩
    · simp [Reader.current, Reader.add, Reader.nextAlternative, halternatives, hitems]
    · simp [Reader.add, Reader.nextAlternative, Nat.add_assoc]

end Reads

namespace ReadsGroup

variable {r : Nat → Regex}

theorem readGroup_append (h : ReadsGroup b e n r) {s : Reader} (hs : s.flags = .plain b)
    (rest : Text) : readGroup s (e ++ ')' :: rest) = some (s.openCapture, e ++ ')' :: rest) :=
  readGroup_of_head_ne hs (by cases e with
    | nil => simp
    | cons c e => exact h.head_ne)

/-- A group that records nothing. -/
theorem plain (h : ReadsGroup b e n r) : ReadsAtom b (['(', '?', ':'] ++ e ++ [')']) n r where
  ne_nil := by simp
  head_ne := by simp
  reaches {s} rest hs := by
    have hopen : step s ('(' :: '?' :: ':' :: (e ++ ')' :: rest)) =
        some (s.openGroup none s.flags, e ++ ')' :: rest) := by
      simp [step, readGroup, readFlags, hs]
    obtain ⟨s', hreaches, houter, hcurrent, hgroups, hnames⟩ :=
      h.reaches (s := s.openGroup none s.flags) rest hs rfl rfl
    have hclose := Reader.closeGroup?_of_outer (r := r s.groups) houter hcurrent hgroups hnames
    have hgoes : Reader.Goes (s', ')' :: rest) (s.add [r s.groups] n, rest) :=
      ⟨by simp [step, hclose], by simp⟩
    have hfirst := Reader.reaches_of_step hs hopen (by simp; omega)
    simpa using (hfirst.trans hreaches).tail hgoes

/-- A group that records. -/
theorem recording (h : ReadsGroup b e n r) :
    ReadsAtom b ('(' :: e ++ [')']) (n + 1) fun k => .group (k + 1) (r (k + 1)) where
  ne_nil := by simp
  head_ne := by simp
  reaches {s} rest hs := by
    have hopen : step s ('(' :: (e ++ ')' :: rest)) = some (s.openCapture, e ++ ')' :: rest) :=
      h.readGroup_append hs rest
    obtain ⟨s', hreaches, houter, hcurrent, hgroups, hnames⟩ :=
      h.reaches (s := s.openCapture) rest hs rfl rfl
    have hclose := Reader.closeGroup?_of_outer (n := n + 1)
      (r := .group (s.groups + 1) (r (s.groups + 1))) houter (congrArg _ hcurrent)
      (by rw [hgroups, Nat.add_comm n, ← Nat.add_assoc]; rfl) hnames
    have hgoes : Reader.Goes (s', ')' :: rest)
        (s.add [.group (s.groups + 1) (r (s.groups + 1))] (n + 1), rest) :=
      ⟨by simp [step, hclose], by simp⟩
    have hfirst := Reader.reaches_of_step hs hopen (by simp)
    simpa using (hfirst.trans hreaches).tail hgoes

end ReadsGroup

namespace ReadsAtom

variable {r : Nat → Regex} {items : Nat → List Regex}

theorem reads (h : ReadsAtom b e n r) : Reads b e n fun k => [r k] :=
  ⟨h.head_ne, fun hs _ => h.reaches _ hs⟩

/-- An element that is read in one step. -/
theorem of_step {c : Char} {r : Regex} (hc : c ≠ '?')
    (h : ∀ s rest, s.flags = .plain b → step s (c :: e ++ rest) = some (s.push r, rest)) :
    ReadsAtom b (c :: e) 0 fun _ => r where
  ne_nil := by simp
  head_ne := by simpa using hc
  reaches {s} rest hs := Reader.reaches_of_step hs (h s rest hs) (by
    simp only [List.length_append, List.length_cons]
    omega)

/-- An atom with an operator behind it. -/
theorem repeated (h : ReadsAtom b e n r) {c : Char} (least : Nat) (most : Option Nat)
    (hc : ∀ s rest, step s (c :: rest) = readRepetition s least most rest) :
    Reads b (e ++ [c]) n fun k => [.repeated (r k) least most true] where
  head_ne := by
    cases e with
    | nil => exact absurd rfl h.ne_nil
    | cons d e => exact h.head_ne
  reaches {s rest} hs hrest := by
    have hlazy : takeLazy rest = (false, rest) := by
      unfold takeLazy
      split
      · simp at hrest
      · rfl
    have hgoes : Reader.Goes (s.add [r s.groups] n, c :: rest)
        (s.add [.repeated (r s.groups) least most true] n, rest) :=
      Reader.goes_of_step hs (by simp [hc, readRepetition, hlazy, Reader.repeatLast?, Reader.add,
        hs, Flags.plain, Flags.initial]) (by simp)
    exact List.append_assoc e [c] rest ▸ (h.reaches _ hs).tail hgoes

/-- An atom with an operator behind it that is marked as lazy. -/
theorem repeatedLazy (h : ReadsAtom b e n r) {c : Char} (least : Nat) (most : Option Nat)
    (hc : ∀ s rest, step s (c :: rest) = readRepetition s least most rest) :
    Reads b (e ++ [c, '?']) n fun k => [.repeated (r k) least most false] where
  head_ne := by
    cases e with
    | nil => exact absurd rfl h.ne_nil
    | cons d e => exact h.head_ne
  reaches {s rest} hs _ := by
    have hgoes : Reader.Goes (s.add [r s.groups] n, c :: '?' :: rest)
        (s.add [.repeated (r s.groups) least most false] n, rest) :=
      Reader.goes_of_step hs (by simp [hc, readRepetition, takeLazy, Reader.repeatLast?, Reader.add,
        hs, Flags.plain, Flags.initial]) (by
          simp only [List.length_cons]
          omega)
    exact List.append_assoc e [c, '?'] rest ▸ (h.reaches _ hs).tail hgoes

/-- A character, with a backslash in front of it where it has a meaning. -/
theorem escaped (c : Char) :
    ReadsAtom b (escape [c]) 0 fun _ => .one ((Flags.plain b).fold (.single c)) := by
  have hliteral : (Flags.plain b).literal? c false =
      some (.one ((Flags.plain b).fold (.single c))) := rfl
  have hescape : escape [c] = if isMeta c then ['\\', c] else [c] := by simp [escape]
  rw [hescape]
  split
  · rename_i hmeta
    refine of_step (by decide) fun s rest hs => ?_
    simp [step, Escape.read, standsForItself_of_isMeta hmeta, Escape.regex?, hs, hliteral]
  · rename_i hmeta
    refine of_step (by rintro rfl; exact hmeta (by decide)) fun s rest hs => ?_
    rw [List.singleton_append, step_of_not_isMeta hmeta, hs, hliteral]
    rfl

end ReadsAtom

/-- An escaped text. -/
theorem Reads.escape (v : Text) :
    Reads b (escape v) 0 fun _ => v.map fun c => .one ((Flags.plain b).fold (.single c)) := by
  induction v with
  | nil => exact nil
  | cons c v ih =>
      have h : Regex.escape (c :: v) = Regex.escape [c] ++ Regex.escape v := by simp [Regex.escape]
      exact h ▸ (ReadsAtom.escaped c).reads.append ih

/-! ### Meaning -/

/-- The texts that differ from a text in case at most, or not at all where case matters. -/
def variantsOf (b : Bool) (v : Text) : Language Char :=
  (v.map fun c => oneOf fun x => ((Flags.plain b).fold (.single c)).holds x.toNat).prod

theorem variantsOf_cons (c : Char) (v : Text) : variantsOf b (c :: v) =
    oneOf (fun x => ((Flags.plain b).fold (.single c)).holds x.toNat) * variantsOf b v :=
  List.prod_cons

theorem variantsOf_false (v : Text) : variantsOf false v = {v} := by
  induction v with
  | nil => rfl
  | cons c v ih =>
      have hclass (x : Char) : ((Flags.plain false).fold (.single c)).holds x.toNat ↔ x = c := by
        simp [Flags.fold, Flags.plain, Char.toNat_inj]
      ext w
      rw [variantsOf_cons, ih, Language.mem_mul]
      simp only [hclass]
      constructor
      · rintro ⟨_, ⟨_, rfl, rfl⟩, _, rfl, rfl⟩
        rfl
      · rintro rfl
        exact ⟨[c], ⟨c, rfl, rfl⟩, v, rfl, rfl⟩

/-- A text denotes a single item that goes given ways, which may depend on the number of groups
opened before. -/
def DenotesAtom (b : Bool) (e : Text) (n : Nat) (W : Text → Nat → Way) : Prop :=
  ∃ r, ReadsAtom b e n r ∧ ∀ t k, Matches t (r k) = W t k

/-- A text denotes items that go given ways, one after the other. -/
def Denotes (b : Bool) (e : Text) (n : Nat) (W : Text → Nat → Way) : Prop :=
  ∃ items, Reads b e n items ∧ ∀ t k, Matches t (sequence (items k)) = W t k

namespace DenotesAtom

variable {W : Text → Nat → Way}

theorem denotes (h : DenotesAtom b e n W) : Denotes b e n W := by
  obtain ⟨r, hr, hW⟩ := h
  exact ⟨_, hr.reads, fun t k => by rw [matches_sequence_singleton, hW]⟩

theorem congr {V : Text → Nat → Way} (h : DenotesAtom b e n W) (hV : ∀ t k, W t k = V t k) :
    DenotesAtom b e n V := by
  obtain ⟨r, hr, hW⟩ := h
  exact ⟨r, hr, fun t k => (hW t k).trans (hV t k)⟩

/-- At most once. -/
theorem optional (h : DenotesAtom b e n W) :
    Denotes b (e ++ ['?']) n fun t k => (W t k).repeated (· ≤ 1) := by
  obtain ⟨r, hr, hW⟩ := h
  refine ⟨_, hr.repeated 0 (some 1) fun s rest => rfl, fun t k => ?_⟩
  rw [matches_sequence_singleton, Matches, hW, permits_some]
  simp

/-- Any number of times. -/
theorem star (h : DenotesAtom b e n W) :
    Denotes b (e ++ ['*']) n fun t k => (W t k).repeated fun _ => True := by
  obtain ⟨r, hr, hW⟩ := h
  refine ⟨_, hr.repeated 0 none fun s rest => rfl, fun t k => ?_⟩
  rw [matches_sequence_singleton, Matches, hW, permits_none]
  simp

/-- At least once. -/
theorem plus (h : DenotesAtom b e n W) :
    Denotes b (e ++ ['+']) n fun t k => (W t k).repeated (1 ≤ ·) := by
  obtain ⟨r, hr, hW⟩ := h
  refine ⟨_, hr.repeated 1 none fun s rest => rfl, fun t k => ?_⟩
  rw [matches_sequence_singleton, Matches, hW, permits_none]

/-- At least once, as seldom as possible. -/
theorem lazyPlus (h : DenotesAtom b e n W) :
    Denotes b (e ++ ['+', '?']) n fun t k => (W t k).repeated (1 ≤ ·) := by
  obtain ⟨r, hr, hW⟩ := h
  refine ⟨_, hr.repeatedLazy 1 none fun s rest => rfl, fun t k => ?_⟩
  rw [matches_sequence_singleton, Matches, hW, permits_none]

/-- The point, which any character but a line feed matches. -/
theorem dot : DenotesAtom b ['.'] 0 fun t _ => .text t (oneOf (· ≠ '\n')) := by
  refine ⟨_, ReadsAtom.of_step (r := .one (.compl (.single '\n'))) (by decide) fun s rest hs => ?_,
    fun t k => ?_⟩
  · simp [step, hs, Flags.dot?, Flags.plain, Flags.initial]
  · have h (x : Char) : x.toNat ≠ '\n'.toNat ↔ x ≠ '\n' := not_congr Char.toNat_inj
    rw [matches_one]
    simp only [CharClass.holds, CharClass.holds_single, Bool.not_eq_true', decide_eq_false_iff_not]
    exact congrArg (fun p => Way.text t (oneOf p)) (funext fun x => propext (h x))

/-- The anchor of the start. -/
theorem startText : DenotesAtom b ['^'] 0 fun t _ => Matches t (.look .startText) :=
  ⟨_, ReadsAtom.of_step (r := .look .startText) (by decide)
    fun s rest hs => by simp [step, hs, Flags.start, Flags.plain, Flags.initial], fun _ _ => rfl⟩

/-- The anchor of the end. -/
theorem endText : DenotesAtom b ['$'] 0 fun t _ => Matches t (.look .endText) :=
  ⟨_, ReadsAtom.of_step (r := .look .endText) (by decide)
    fun s rest hs => by simp [step, hs, Flags.finish, Flags.plain, Flags.initial], fun _ _ => rfl⟩

end DenotesAtom

namespace Denotes

variable {V W : Text → Nat → Way}

theorem nil : Denotes b [] 0 fun _ _ => .stay := ⟨_, .nil, fun _ _ => rfl⟩

theorem congr (h : Denotes b e n W) (hn : n = n') (hV : ∀ t k, W t k = V t k) :
    Denotes b e n' V := by
  obtain ⟨items, hr, hW⟩ := h
  exact ⟨items, hn ▸ hr, fun t k => (hW t k).trans (hV t k)⟩

theorem append (h : Denotes b e n V) (h' : Denotes b e' n' W) :
    Denotes b (e ++ e') (n + n') fun t k => (V t k).andThen (W t (k + n)) := by
  obtain ⟨items, hr, hV⟩ := h
  obtain ⟨items', hr', hW⟩ := h'
  exact ⟨_, hr.append hr', fun t k => by rw [matches_sequence_append, hV, hW]⟩

theorem plainGroup (h : Denotes b e n W) :
    DenotesAtom b (['(', '?', ':'] ++ e ++ [')']) n W := by
  obtain ⟨items, hr, hW⟩ := h
  exact ⟨_, hr.group.plain, hW⟩

theorem recordingGroup (h : Denotes b e n W) :
    DenotesAtom b ('(' :: e ++ [')']) (n + 1) fun t k => (W t (k + 1)).group (k + 1) := by
  obtain ⟨items, hr, hW⟩ := h
  exact ⟨_, hr.group.recording, fun t k => congrArg (Way.group (k + 1)) (hW t (k + 1))⟩

/-- A group of two alternatives. -/
theorem alternative (h : Denotes b e n V) (h' : Denotes b e' n' W) :
    DenotesAtom b (['(', '?', ':'] ++ (e ++ '|' :: e') ++ [')']) (n + n')
      fun t k => (V t k).orElse (W t (k + n)) := by
  obtain ⟨items, hr, hV⟩ := h
  obtain ⟨items', hr', hW⟩ := h'
  exact ⟨_, (hr.alternative hr').plain, fun t k => by rw [choice, choice, Matches, hV, hW]⟩

/-- An escaped text denotes the texts that differ from it in case at most. -/
theorem escape (v : Text) : Denotes b (escape v) 0 fun t _ => .text t (variantsOf b v) := by
  refine ⟨_, .escape v, fun t k => ?_⟩
  induction v with
  | nil => exact (Way.text_one).symm
  | cons c v ih =>
      dsimp only at ih ⊢
      rw [variantsOf_cons, Way.text_mul, ← ih, ← matches_one]
      rfl

/-- **An expression that denotes ways is accepted, and goes these ways.** -/
theorem parse? (h : Denotes false e n W) :
    ∃ r, Regex.parse? e = some r ∧ ∀ t, Matches t r = W t 0 := by
  obtain ⟨items, hr, hW⟩ := h
  have hnil : ([] : Text).head? ≠ some '?' := by simp
  have hreaches := hr.reaches (s := .initial) rfl hnil
  rw [List.append_nil] at hreaches
  have hcurrent : (Reader.initial.add (items 0) n).current = sequence (items 0) := by
    simp [Reader.add, Reader.initial, Reader.current, choice]
  exact ⟨sequence (items 0), hcurrent ▸ Reader.parse?_of_reaches hreaches rfl rfl,
    fun t => hW t 0⟩

end Denotes

end UrlMatch.Regex
