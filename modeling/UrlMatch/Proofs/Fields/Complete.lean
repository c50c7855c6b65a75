import UrlMatch.Fields.Basic
import UrlMatch.Proofs.Result

/-!
# Completed fields

Fields are completed one component after the other, and each component is placed on its own: what
is placed there depends on the component's text, on what was there before, and on the protocol,
which comes first. So each component of completed fields can be looked at without the others.

## Main results

* `exists_placed_of_complete`: what completing puts at each component.
* `placed_of_complete`: the same where there is no base.
-/

namespace UrlMatch

namespace Components

/-- Replacing a value by itself changes nothing. -/
theorem set_get_self {α : Type} (m : Components α) (c : Component) : m.set c (m.get c) = m := by
  refine ext_get fun d => ?_
  by_cases hd : c = d
  · rw [← hd, get_set_self]
  · rw [get_set_of_ne m _ hd]

end Components

namespace Fields

variable {f : Fields} {mode : Mode} {base : Option Url} {c : Component} {cs : List Component}
  {start values : Components Text}

/-- What a component holds after it was placed beside a protocol, and `before` held. -/
def placed (f : Fields) (mode : Mode) (base : Option Url) (protocol : Text) (c : Component)
    (before : Text) : Except Error Text :=
  match f.get? c, mode with
  | none, _ => .ok before
  | some raw, .pattern => .ok (completed mode base c raw)
  | some raw, .url => canonicalValue c protocol (completed mode base c raw)

/-- A component is placed over what it held, and nothing else is touched. -/
theorem place_eq (f : Fields) (mode : Mode) (base : Option Url) (values : Components Text)
    (c : Component) :
    f.place mode base values c =
      (f.placed mode base values.protocol c (values.get c)).map (values.set c) := by
  rw [place, placed.eq_def]
  cases f.get? c with
  | none => simp [Except.map, Components.set_get_self]
  | some raw => cases mode <;> rfl

theorem place_eq_ok_iff :
    f.place mode base start c = .ok values ↔
      ∃ t, f.placed mode base start.protocol c (start.get c) = .ok t ∧ values = start.set c t := by
  rw [place_eq, map_eq_ok]
  simp only [eq_comm]

/-- What the protocol becomes does not depend on a protocol. -/
theorem placed_protocol (f : Fields) (mode : Mode) (base : Option Url) (protocol before : Text) :
    f.placed mode base protocol .protocol before = f.placed mode base [] .protocol before := by
  rw [placed.eq_def, placed.eq_def]
  rfl

/-- What placing components does to each component: those that are placed get what belongs there,
and the others stay as they were. The protocol is none of them, so it stays the same throughout. -/
theorem get_of_foldlM_place (hnodup : cs.Nodup) (hprotocol : .protocol ∉ cs)
    (h : cs.foldlM (f.place mode base) start = .ok values) :
    (∀ c ∈ cs, f.placed mode base start.protocol c (start.get c) = .ok (values.get c)) ∧
      ∀ c, c ∉ cs → values.get c = start.get c := by
  induction cs generalizing start with
  | nil =>
      obtain rfl := Except.ok.inj h
      exact ⟨fun _ hc => (List.not_mem_nil hc).elim, fun _ _ => rfl⟩
  | cons d cs ih =>
      rw [List.foldlM_cons] at h
      obtain ⟨next, hnext, h⟩ := bind_eq_ok.1 h
      obtain ⟨t, ht, rfl⟩ := place_eq_ok_iff.1 hnext
      rw [List.nodup_cons] at hnodup
      rw [List.mem_cons, not_or] at hprotocol
      obtain ⟨hplaced, hkept⟩ := ih hnodup.2 hprotocol.2 h
      have hsame : (start.set d t).protocol = start.protocol :=
        Components.get_set_of_ne start t (Ne.symm hprotocol.1)
      have hother {c : Component} (hc : d ≠ c) : (start.set d t).get c = start.get c :=
        Components.get_set_of_ne start t hc
      constructor
      · intro c hc
        rcases List.mem_cons.1 hc with rfl | hc
        · rw [hkept c hnodup.1, Components.get_set_self]
          exact ht
        · have hne : d ≠ c := fun heq => hnodup.1 (heq ▸ hc)
          rw [← hother hne, ← hsame]
          exact hplaced c hc
      · intro c hc
        rw [List.mem_cons, not_or] at hc
        rw [hkept c hc.2, hother (Ne.symm hc.1)]

/-- Placing all components places each of them on its own, beside the protocol that is placed. -/
theorem placed_of_foldlM_place (h : Component.all.foldlM (f.place mode base) start = .ok values)
    (c : Component) : f.placed mode base values.protocol c (start.get c) = .ok (values.get c) := by
  rw [Component.all, List.foldlM_cons] at h
  obtain ⟨next, hnext, h⟩ := bind_eq_ok.1 h
  obtain ⟨t, ht, rfl⟩ := place_eq_ok_iff.1 hnext
  obtain ⟨hplaced, hkept⟩ := get_of_foldlM_place (by decide) (by decide) h
  have hprotocol : values.protocol = t := hkept .protocol (by decide)
  have hsame : (start.set .protocol t).protocol = values.protocol := hprotocol.symm
  by_cases hc : c = .protocol
  · subst hc
    rw [placed_protocol] at ht ⊢
    exact ht.trans (congrArg Except.ok hprotocol.symm)
  · have hother := Components.get_set_of_ne start t (Ne.symm hc)
    rw [← hother, ← hsame]
    exact hplaced c (by cases c <;> first | decide | exact absurd rfl hc)

/-- Placing patterns never fails. -/
theorem exists_foldlM_place_pattern (cs : List Component) (start : Components Text) :
    ∃ values, cs.foldlM (f.place .pattern base) start = .ok values := by
  induction cs generalizing start with
  | nil => exact ⟨start, rfl⟩
  | cons c cs ih =>
      rw [List.foldlM_cons, place]
      cases f.get? c with
      | none => exact ih start
      | some raw => exact ih (start.set c (completed .pattern base c raw))

/-- Patterns are completed if their base is a URL. -/
theorem exists_complete_pattern (h : f.baseUrl = .ok base) (start : Components Text) :
    ∃ values, f.complete .pattern start = .ok values := by
  rw [complete, h, ok_bind]
  exact exists_foldlM_place_pattern Component.all _

/-- What is there before the given components are placed. -/
def beneath (f : Fields) (mode : Mode) (base : Option Url) (defaults : Components Text) :
    Components Text :=
  match base with
  | none => defaults
  | some u => f.inherit mode u defaults

/-- **Each component of completed fields is placed on its own**, beside the completed protocol and
over what the base says. -/
theorem exists_placed_of_complete (h : f.complete mode start = .ok values) :
    ∃ base, f.baseUrl = .ok base ∧ ∀ c,
      f.placed mode base values.protocol c ((f.beneath mode base start).get c) =
        .ok (values.get c) := by
  obtain ⟨base, hbase, h⟩ := bind_eq_ok.1 h
  exact ⟨base, hbase, placed_of_foldlM_place h⟩

/-- Where there is no base, components are placed over the defaults. -/
theorem placed_of_complete (hbase : f.base = none) (h : f.complete mode start = .ok values)
    (c : Component) : f.placed mode none values.protocol c (start.get c) = .ok (values.get c) := by
  obtain ⟨base, hread, hplaced⟩ := exists_placed_of_complete h
  rw [baseUrl, hbase] at hread
  cases hread
  exact hplaced c

end Fields

end UrlMatch
