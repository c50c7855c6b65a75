import UrlMatch.Pattern.Compiled
import UrlMatch.Proofs.Pattern.Recoding
import UrlMatch.Proofs.Pattern.RoundTrip

/-!
# Blank parts

An encoder may leave nothing of a fixed text. What is left then is a blank part, an empty text
without a modifier: it stands for nothing and is written as nothing, so that the regular expression
and the captures of parts are the same without it. It is not read back, though, and hides from the
parts on both sides of it what they are next to.

## Main results

* `compile_withoutBlank`: blank parts make no difference to the compiled pattern.
* `parse_render_withoutBlank`: what is read of a pattern is read back from what is written for it
  without its blank parts.
-/

namespace UrlMatch.Pattern

/-- An empty text without a modifier. -/
def Part.isBlank : Part → Bool
  | fixed [] .once => true
  | _ => false

/-- The parts that stand for something. -/
def withoutBlank (ps : List Part) : List Part := ps.filter (!·.isBlank)

variable {o : ReadOptions} {p : Part} {ps : List Part} {t : Text}

theorem isBlank_iff : p.isBlank ↔ p = .fixed [] .once := by
  rw [Part.isBlank.eq_def]
  split <;> simp_all

theorem withoutBlank_cons (p : Part) (ps : List Part) :
    withoutBlank (p :: ps) = if p.isBlank then withoutBlank ps else p :: withoutBlank ps := by
  cases h : p.isBlank <;> simp [withoutBlank, h]

/-! ### What parts are compiled to -/

/-- What is put together from parts, and is nothing for a blank one, is the same without these. -/
theorem flatMap_withoutBlank {α : Type} {f : Part → List α} (h : f (.fixed [] .once) = []) :
    (withoutBlank ps).flatMap f = ps.flatMap f := by
  induction ps with
  | nil => rfl
  | cons p ps ih =>
      rw [withoutBlank_cons, List.flatMap_cons, ← ih]
      split
      · rename_i hp
        rw [isBlank_iff.1 hp, h, List.nil_append]
      · rw [List.flatMap_cons]

theorem keysOf_withoutBlank (ps : List Part) : keysOf (withoutBlank ps) = keysOf ps := by
  induction ps with
  | nil => rfl
  | cons p ps ih =>
      rw [withoutBlank_cons]
      split
      · rename_i hp
        rw [isBlank_iff.1 hp, ih]
        rfl
      · simp only [keysOf, List.filterMap_cons]
        rw [← keysOf, ← keysOf, ih]

/-- **Blank parts make no difference to a pattern that matches up to the end.** -/
theorem compile_withoutBlank {o : MatchOptions} (hend : o.toEnd) (ps : List Part) :
    compile o (withoutBlank ps) = compile o ps := by
  have hclosing : o.closing (withoutBlank ps) = o.closing ps := by
    rw [MatchOptions.closing, MatchOptions.closing, hend]
    cases delimiterClass? o.delimiters <;> rfl
  have hsource : source o (withoutBlank ps) = source o ps := by
    rw [source, source, flatMap_withoutBlank rfl, hclosing]
  rw [compile, compile, hsource, keysOf_withoutBlank]

/-! ### Writing and reading back -/

/-- Nothing but the delimiters and the characters that captures take along matters for writing. -/
theorem renderFrom_plain (previous : Option Part) (ps : List Part) :
    renderFrom o.plain previous ps = renderFrom o previous ps := by
  induction ps generalizing previous with
  | nil => rfl
  | cons p ps ih =>
      rw [renderFrom, renderFrom, ih]
      rfl

/-- Without blank parts, what is read is well-formed however texts are encoded, if no text with a
modifier is empty. -/
theorem WellFormed.withoutBlank {behindText behindText' : Bool} {names : Naming}
    (h : WellFormed o behindText names ps) (hbehind : behindText' → behindText)
    (hempty : ∀ m, .fixed [] m ∈ ps → m = .once) :
    WellFormed o.plain behindText' names (withoutBlank ps) := by
  induction ps generalizing behindText behindText' names with
  | nil => trivial
  | cons p ps ih =>
      have hrest : ∀ m, .fixed [] m ∈ ps → m = .once :=
        fun m hm => hempty m (List.mem_cons_of_mem _ hm)
      rw [withoutBlank_cons]
      cases p with
      | capture c =>
          obtain ⟨hvalid, names', hname, hps⟩ := h
          exact ⟨⟨hvalid.name, hvalid.segment, hvalid.custom⟩, names', hname, ih hps id hrest⟩
      | fixed v m =>
          obtain ⟨honce, -, hps⟩ := h
          have hfront (hm : m = .once) : behindText' = false := by
            by_contra hb
            rw [hbehind (by simpa using hb)] at honce
            exact absurd (honce hm) (by simp)
          split
          · rename_i hblank
            cases isBlank_iff.1 hblank
            exact ih hps (by simp [hfront rfl]) hrest
          · rename_i hblank
            have hv : v ≠ [] := by
              rintro rfl
              obtain rfl := hempty m List.mem_cons_self
              exact hblank rfl
            exact ⟨hfront, ⟨v, hv, rfl⟩, ih hps id hrest⟩

/-- **What is read is read back** from what is written for it without its blank parts. -/
theorem parse_render_withoutBlank (ho : o.plain.Neutral) (h : parse o t = .ok ps)
    (hempty : ∀ m, .fixed [] m ∈ ps → m = .once) :
    parse o.plain (render o (withoutBlank ps)) = .ok (withoutBlank ps) := by
  have hwf := (wellFormed_of_parse h).withoutBlank id hempty
  rw [render, ← renderFrom_plain, parse_of_spells o.plain (spells_renderFrom ho hwf none)]
  exact @partsOf_itemsOf o.plain ho .empty _ none hwf

end UrlMatch.Pattern
