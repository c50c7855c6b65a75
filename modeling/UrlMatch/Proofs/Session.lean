import UrlMatch.Proofs.Matcher.Exec
import UrlMatch.Session

/-!
# Sessions

The answers of a session tell what has become of it: its fields are those that it answered last, so
that steps that fail could be left out. What it matches with was built from fields, and what it
says about matching goes together.

Each of these is shown for one step, and from it for a run by induction on the steps.

## Main results

* `fields_run`: the fields behind a run are those that were answered last.
* `isBuilt_run`: what a session matches with was built from fields.
* `matched_of_mem_run`: an input is said to match exactly if a match is shown.
-/

namespace UrlMatch.Session

variable {s : Session} {x : Step} {steps : List Step} {cause : Error} {matched : Bool}
  {found : Option Match}

theorem run_cons (s : Session) (x : Step) (steps : List Step) :
    s.run (x :: steps) =
      ((s.step x).1 :: ((s.step x).2.run steps).1, ((s.step x).2.run steps).2) := rfl

/-! ### Fields -/

/-- The fields that an answer shows. -/
def Answer.fields? : Answer → Option Fields
  | .fields f => some f
  | _ => none

theorem fields?_tryMatch (s : Session) (input : Input) (base : Option Text) :
    (s.tryMatch input base).fields? = none := by
  rw [tryMatch]
  cases s.matcher <;> rfl

/-- **A step** changes the fields exactly if it answers with fields. -/
theorem fields_step (s : Session) (x : Step) :
    (s.step x).2.fields = (s.step x).1.fields?.getD s.fields := by
  cases x with
  | set | base | get | reset => rfl
  | split t base =>
      rw [step]
      cases Fields.split t base <;> rfl
  | complete mode defaults =>
      rw [step]
      cases s.fields.complete mode defaults <;> rfl
  | build ignoreCase =>
      rw [step]
      cases Matcher.ofFields s.fields ignoreCase <;> rfl
  | exec | execSelf => simp [step, fields?_tryMatch]

/-- A step that fails leaves the fields as they are. -/
theorem fields_step_of_failed (h : (s.step x).1 = .failed cause) :
    (s.step x).2.fields = s.fields := by
  rw [fields_step, h]
  rfl

/-- **The fields behind a run** are those that were answered last. -/
theorem fields_run (s : Session) (steps : List Step) :
    (s.run steps).2.fields =
      ((s.run steps).1.filterMap Answer.fields?).getLast?.getD s.fields := by
  induction steps generalizing s with
  | nil => rfl
  | cons x steps ih =>
      rw [run_cons, ih, fields_step, List.filterMap_cons]
      cases (s.step x).1.fields? with
      | none => rfl
      | some f => rw [List.getLast?_cons]; rfl

/-! ### Patterns -/

/-- What the session matches with, if with anything, was built from fields. -/
def IsBuilt (s : Session) : Prop :=
  ∀ m ∈ s.matcher, ∃ fields ignoreCase, Matcher.ofFields fields ignoreCase = .ok m

theorem isBuilt_initial : IsBuilt initial := fun m hm => absurd hm (Option.not_mem_none m)

/-- Only building a pattern changes the pattern. -/
theorem IsBuilt.step (h : IsBuilt s) (x : Step) : IsBuilt (s.step x).2 := by
  cases x with
  | set | base | get | reset | exec | execSelf => exact h
  | split t base =>
      rw [Session.step]
      cases Fields.split t base <;> exact h
  | complete mode defaults =>
      rw [Session.step]
      cases s.fields.complete mode defaults <;> exact h
  | build ignoreCase =>
      rw [Session.step]
      cases hbuilt : Matcher.ofFields s.fields ignoreCase with
      | error => exact fun m hm => absurd hm (Option.not_mem_none m)
      | ok m =>
          rintro _ ⟨⟩
          exact ⟨s.fields, ignoreCase, hbuilt⟩

theorem IsBuilt.run (h : IsBuilt s) (steps : List Step) : IsBuilt (s.run steps).2 := by
  induction steps generalizing s with
  | nil => exact h
  | cons x steps ih =>
      rw [run_cons]
      exact ih (h.step x)

/-- **What a session matches with** was built from fields, whatever the steps were. -/
theorem isBuilt_run (steps : List Step) : IsBuilt (initial.run steps).2 :=
  isBuilt_initial.run steps

/-! ### Matches -/

theorem matched_of_tryMatch {input : Input} {base : Option Text}
    (h : s.tryMatch input base = .tested matched found) : matched = found.isSome := by
  rw [tryMatch] at h
  cases hmatcher : s.matcher with
  | none => simp [hmatcher] at h
  | some m =>
      rw [hmatcher] at h
      obtain ⟨rfl, rfl⟩ := Answer.tested.inj h
      exact Bool.eq_iff_iff.2 Matcher.test_iff_isSome_exec?

theorem matched_of_step (h : (s.step x).1 = .tested matched found) : matched = found.isSome := by
  cases x with
  | set | base | get | reset => cases h
  | split t base =>
      rw [step] at h
      split at h <;> cases h
  | complete mode defaults =>
      rw [step] at h
      split at h <;> cases h
  | build ignoreCase =>
      rw [step] at h
      split at h <;> cases h
  | exec | execSelf => exact matched_of_tryMatch h

/-- **An input is said to match** exactly if a match is shown. -/
theorem matched_of_mem_run (h : .tested matched found ∈ (s.run steps).1) :
    matched = found.isSome := by
  induction steps generalizing s with
  | nil => cases h
  | cons x steps ih =>
      rw [run_cons] at h
      rcases List.mem_cons.1 h with h | h
      · exact matched_of_step h.symm
      · exact ih h

end UrlMatch.Session
