import Mathlib.Data.List.Nodup
import UrlMatch.Pattern.Compiled
import UrlMatch.Proofs.Pattern.WellFormed
import UrlMatch.Proofs.Text

/-!
# Names of captures

No two captures of a pattern go by the same name, nor are they found under the same text: a name
that is given starts with no digit, and so differs from every number.

## Main results

* `nodup_names`: the names of the captures differ from each other.
* `nodup_display`: so do the texts that they are found under.
-/

namespace UrlMatch.Pattern

/-! ### Texts of names -/

/-- A name starts with no digit. -/
theorem isNameStart_of_isDigit {c : Char} (h : c.isDigit) : isNameStart c = false :=
  Text.forall_digit (isNameStart · = false) (by decide) c h

theorem decimal_ne_of_isName {n : Text} (h : IsName n) (k : Nat) : n ≠ decimal k := by
  rintro rfl
  obtain ⟨hne, htake⟩ := h
  cases hd : decimal k with
  | nil => exact hne hd
  | cons c rest =>
      have hdigit : c.isDigit := Nat.isDigit_of_mem_toDigits (by decide) (by decide)
        (show c ∈ decimal k from hd ▸ List.mem_cons_self)
      simp [hd, takeName, isNameStart_of_isDigit hdigit] at htake

/-- A name that is not a number is a name in the sense of the pattern's syntax. -/
def CaptureName.Valid : CaptureName → Prop
  | named n => IsName n
  | ordinal _ => True

/-- Valid names are found under different texts. -/
theorem CaptureName.display_inj {a b : CaptureName} (ha : a.Valid) (hb : b.Valid)
    (h : a.display = b.display) : a = b := by
  cases a with
  | named m =>
      cases b with
      | named n => exact congrArg named h
      | ordinal k => exact absurd h (decimal_ne_of_isName ha k)
  | ordinal j =>
      cases b with
      | named n => exact absurd h.symm (decimal_ne_of_isName hb j)
      | ordinal k =>
          have hvalue := congrArg (Nat.ofDigitChars 10 · 0) h
          simp only [display, decimal, Nat.ofDigitChars_ten_toDigits] at hvalue
          exact congrArg ordinal hvalue

/-! ### Names of well-formed parts -/

/-- The names of the captures among parts, in order. -/
def namesOf (parts : List Part) : List CaptureName := (keysOf parts).map (·.name)

@[simp] theorem namesOf_fixed (v : Text) (m : Modifier) (parts : List Part) :
    namesOf (.fixed v m :: parts) = namesOf parts := rfl

@[simp] theorem namesOf_capture (c : Capture) (parts : List Part) :
    namesOf (.capture c :: parts) = c.name :: namesOf parts := rfl

/-- A name that is not yet given. -/
def Naming.IsNew (names : Naming) : CaptureName → Prop
  | .named n => n ∉ names.used
  | .ordinal k => names.ordinals ≤ k

/-- The name that is given next is new, and no longer new then; what is new then was new before. -/
theorem isNew_of_assign {names names' : Naming} {given : Option Text} {name : CaptureName}
    (h : names.assign given = .ok (name, names')) :
    names.IsNew name ∧ ¬ names'.IsNew name ∧ ∀ other, names'.IsNew other → names.IsNew other := by
  cases given with
  | none =>
      cases h
      refine ⟨Nat.le_refl _, by simp [Naming.IsNew], fun other hother => ?_⟩
      cases other with
      | named n => exact hother
      | ordinal k => exact Nat.le_of_succ_le hother
  | some n =>
      rw [Naming.assign] at h
      split at h
      · cases h
      · rename_i hnew
        cases h
        refine ⟨hnew, by simp [Naming.IsNew], fun other hother => ?_⟩
        cases other with
        | named m => exact fun hm => hother (List.mem_cons_of_mem _ hm)
        | ordinal k => exact hother

/-- **The names of captures** are new, and differ from each other. -/
theorem nodup_names {o : ReadOptions} {behindText : Bool} {names : Naming} {parts : List Part}
    (h : WellFormed o behindText names parts) :
    (namesOf parts).Nodup ∧ ∀ name ∈ namesOf parts, names.IsNew name ∧ name.Valid := by
  induction parts generalizing behindText names with
  | nil => exact ⟨.nil, fun _ hn => nomatch hn⟩
  | cons p parts ih =>
      cases p with
      | fixed v m => exact ih h.2.2
      | capture c =>
          obtain ⟨hvalid, names', hassign, hrest⟩ := h
          obtain ⟨hnew, hused, hbefore⟩ := isNew_of_assign hassign
          obtain ⟨hnodup, hall⟩ := ih hrest
          refine ⟨List.nodup_cons.2 ⟨fun hmem => hused (hall _ hmem).1, hnodup⟩, ?_⟩
          rw [namesOf_capture, List.forall_mem_cons]
          refine ⟨⟨hnew, ?_⟩, fun name hname =>
            ⟨hbefore _ (hall name hname).1, (hall name hname).2⟩⟩
          cases hname : c.name with
          | named n => exact hvalid.name n hname
          | ordinal k => trivial

/-- **No two captures are found under the same text.** -/
theorem nodup_display {o : ReadOptions} {behindText : Bool} {names : Naming} {parts : List Part}
    (h : WellFormed o behindText names parts) : ((namesOf parts).map (·.display)).Nodup := by
  obtain ⟨hnodup, hall⟩ := nodup_names h
  exact hnodup.map_on fun a ha b hb => CaptureName.display_inj (hall a ha).2 (hall b hb).2

end UrlMatch.Pattern
