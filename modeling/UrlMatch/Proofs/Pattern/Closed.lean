import UrlMatch.Proofs.Pattern.Lexemes
import UrlMatch.Proofs.Regex.Nesting

/-!
# Regular expressions that close themselves

The reader of patterns finds the end of a regular expression by counting parentheses. The reader of
expressions also knows classes and comments, in which a parenthesis is none, so the two need not
agree. `Closed f w` says that they do: read on its own, with a closing parenthesis behind it, the
text `w` leaves nothing open at this parenthesis. Then it is read in the same way wherever it
stands in parentheses.

## Main results

* `Closed.readsGroup`: a text that is closed fills a group, whatever stands around the group.
* `closed_of_reaches`: a text that fills a group anywhere is closed.
-/

namespace UrlMatch.Pattern

open Regex

/-- Read on its own, with a closing parenthesis behind it, a text leaves no group and no class open
at the parenthesis. -/
def Closed (f : Flags) (w : Text) : Prop :=
  ∃ s, Reader.Reaches ({ Reader.initial with flags := f }, w ++ [')']) (s, [')']) ∧ s.outer = []

variable {b : Bool} {f : Flags} {w : Text} {s s' : Reader}

/-! ### Balanced texts are read quietly -/

theorem Balanced.of_escape {c : Char} {depth : Nat} (h : Balanced depth ('\\' :: c :: w)) :
    Balanced depth w := by
  cases h with
  | escape _ h => exact h
  | other hne => exact absurd rfl hne

theorem Balanced.of_cons {c : Char} {depth : Nat} (hc : c ≠ '\\') (h : Balanced depth (c :: w)) :
    ∃ depth', Balanced depth' w := by
  cases h with
  | escape _ _ => exact absurd rfl hc
  | closing h => exact ⟨_, h⟩
  | opening _ h => exact ⟨_, h⟩
  | other _ _ _ h => exact ⟨_, h⟩

theorem Balanced.of_opening {depth : Nat} (h : Balanced depth ('(' :: w)) :
    isNonCapturing (w ++ [')']) := by
  cases h with
  | opening h _ => exact h
  | other _ hne => exact absurd rfl hne

/-- What is balanced is still so behind a piece that takes no backslash alone. -/
theorem Balanced.drop {v : Text} {depth : Nat} (hv : Whole v) (h : Balanced depth (v ++ w)) :
    ∃ depth', Balanced depth' w := by
  induction hv generalizing depth with
  | nil => exact ⟨depth, h⟩
  | pair c _ ih => exact ih h.of_escape
  | single hc _ ih =>
      obtain ⟨_, h⟩ := h.of_cons hc
      exact ih h

/-- What does not capture opens no group that records. -/
theorem unrecorded_of_isNonCapturing {t : Text} (h : isNonCapturing t) : Unrecorded f t := by
  have hmark : Unicode.isBlank '?' = false := by decide
  have hskip (rest : Text) : f.skip ('?' :: rest) = '?' :: rest := by
    simp [Flags.skip, dropIgnored, hmark]
  unfold isNonCapturing at h
  split at h
  · simp at h
  · exact ⟨_, hskip _, by simp, by simp⟩
  · exact ⟨_, hskip _, by simp, by simp⟩
  · simp at h
  · rename_i rest hname hequal hbang hangle
    exact ⟨rest, hskip rest, fun r hr => hname _ (by rw [hr]), fun r hr => absurd hr (hangle r)⟩
  · simp at h

/-- **What is balanced is read quietly**: no group that records is opened in it. -/
theorem reachesQuietly_of_balanced {C v : Text} {depth : Nat} {x : Reader × Text}
    (hx : x.2 = v ++ ')' :: C) (hv : Balanced depth v) (h : Reader.Reaches x (s', ')' :: C)) :
    Reader.ReachesQuietly x (s', ')' :: C) := by
  induction h using Relation.ReflTransGen.head_induction_on generalizing depth v with
  | refl => exact .refl
  | @head x y hgoes hrest ih =>
      obtain ⟨s, t⟩ := x
      obtain ⟨s1, t1⟩ := y
      obtain rfl : t = v ++ ')' :: C := hx
      obtain ⟨hclear, v1, -, ht1, -⟩ := Reader.reaches_local hrest C
      obtain rfl : t1 = v1 ++ ')' :: C := ht1
      have hagree : Agree C C (v1 ++ ')' :: C) (v1 ++ ')' :: C) := ⟨v1, rfl, rfl⟩
      obtain ⟨w, hne, hw, hskip, -⟩ := step_local hgoes.1 hagree hclear
      obtain ⟨u, hu, ht, -⟩ := skip_local (f := s.flags) (hskip ▸ hagree.append w)
      dsimp only at hskip
      have hv1 : v = u ++ (w ++ v1) := by
        rw [hskip] at ht
        exact (List.append_left_inj (')' :: C)).1 (by simpa using ht)
      subst hv1
      obtain ⟨depth', hwv⟩ := hv.drop hu
      obtain ⟨depth'', hv1⟩ := hwv.drop hw
      refine .head ⟨hgoes, fun rest hrest => unrecorded_of_isNonCapturing ?_⟩ (ih rfl hv1)
      cases w with
      | nil => contradiction
      | cons c w =>
          obtain ⟨rfl, rfl⟩ := List.cons.inj (hskip.symm.trans hrest)
          have hopen : isNonCapturing (w ++ v1 ++ [')']) := hwv.of_opening
          rwa [isNonCapturing_append (w ++ v1) [] C, List.append_assoc] at hopen

/-! ### Closed texts -/

/-- A reader at the start of a group is the first reader, seen within the group. -/
theorem inside_of_start (halternatives : s.alternatives = []) (hitems : s.items = []) :
    ({ Reader.initial with flags := s.flags } : Reader).inside s = s := by
  obtain ⟨_, _, _, _, _, _⟩ := s
  simp_all [Reader.inside, Reader.initial]

namespace Closed

/-- **A text that is closed fills a group**, whatever stands around the group, and records
nothing. -/
theorem readsGroup (h : Closed (.plain b) w) (hhead : w.head? ≠ some '?') (hw : Balanced 0 w) :
    ∃ r, ReadsGroup b w 0 fun _ => r := by
  obtain ⟨s', hreaches, houter⟩ := h
  refine ⟨s'.current, hhead, ?_⟩
  intro s rest hs halternatives hitems
  obtain ⟨-, v, -, hv, hlocal⟩ := Reader.reaches_local hreaches rest
  obtain rfl : w = v := (List.append_left_inj [')']).1 hv
  have hquiet := reachesQuietly_of_balanced rfl hw hlocal
  have hinside := (Reader.ReachesQuietly.inside hquiet s).reaches
  dsimp only at hinside
  rw [← hs, inside_of_start halternatives hitems] at hinside
  exact ⟨_, hinside, by simp [houter], rfl, rfl, rfl⟩

end Closed

/-- **A text that fills a group is closed**: if the parenthesis behind the text closes the group
that stands in front of the text anywhere, it does so everywhere. -/
theorem closed_of_reaches {C : Text} {n : Nat} {frame frame' : Frame} {outer outer' : List Frame}
    (hw : Balanced 0 w) (halternatives : s.alternatives = []) (hitems : s.items = [])
    (houter : s.outer = frame :: outer) (hfresh : ∀ f ∈ outer, f.index ≠ some n)
    (hn : n ≤ s.groups) (h : Reader.Reaches (s, w ++ ')' :: C) (s', ')' :: C))
    (houter' : s'.outer = frame' :: outer') (hindex : frame'.index = some n) :
    Closed s.flags w := by
  have hquiet := reachesQuietly_of_balanced rfl hw h
  rw [← inside_of_start halternatives hitems] at hquiet
  obtain ⟨s1, hs1, hreaches, hnone⟩ := Reader.reaches_of_inside hquiet
    (by simp [Reader.initial]) houter hfresh hn ⟨frame', by simp [houter'], hindex⟩
  obtain ⟨-, v, -, hv, hlocal⟩ := Reader.reaches_local hreaches.reaches []
  obtain rfl : w = v := (List.append_left_inj (')' :: C)).1 hv
  refine ⟨s1, hlocal, ?_⟩
  cases hs : s1.outer with
  | nil => rfl
  | cons g rest =>
      have hg : g = frame' := by
        have hout := congrArg (fun y => y.outer.head?) hs1
        simpa [hs, houter', eq_comm] using hout
      have hnone := hnone g (by simp [hs])
      simp [hg, hindex] at hnone

end UrlMatch.Pattern
