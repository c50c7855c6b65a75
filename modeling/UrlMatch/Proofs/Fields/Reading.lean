import UrlMatch.Proofs.Fields.Slices
import UrlMatch.Proofs.Pattern.Pieces

/-!
# The components of a pattern are read as they were split

A pattern for whole URLs is split by its lexemes, and what is written into a component is later
read again on its own. Both see the same: the cuts are made in front of lexemes, and a piece that
ends in front of a lexeme is read as the lexemes in it.

## Main results

* `slice_of_mem_slicesOf`: a slice that is written lies between two lexemes of the text.
* `lex_of_mem_slicesOf`: the value of a component is read as the lexemes that it was cut from.
-/

namespace UrlMatch.Fields

open Pattern

/-- A slice that splitting writes lies between two lexemes of the text, and is the value of its
component. -/
theorem slice_of_mem_slicesOf {ls : List Lexeme} {values : Components (Option Text)} {s : Slice}
    (hls : lex .lenient (spelling ls) = .ok ls) (h : splitText (spelling ls) = .ok values)
    (hs : s ∈ slicesOf (spelling ls)) :
    (∃ a ∈ ls, a.start = s.first) ∧ (∃ b ∈ ls, b.start = s.last) ∧
      ∃ v, (spelling ls).slice? s.first s.last = some v ∧ values.get s.component = some v := by
  have hsound := Cursor.sound_initial (placed_of_lexFrom hls).1
  rw [splitText, hls] at h
  obtain ⟨c, hrun, ⟨⟩⟩ := bind_eq_ok.1 h
  rw [slicesOf, hls] at hs
  obtain ⟨hfirst, hlast, v, hslice, hv⟩ := Cursor.get_of_mem_slices hsound hrun hs
  exact ⟨hfirst, hlast, v, hslice, (Cursor.filledIn_result c).get hv⟩

/-- **The value of a component is read as the lexemes that it was cut from.** Whatever splitting
writes into a component, lenient reading gives for it just the lexemes of the whole text that start
in its slice, with their places counted from its beginning, and the end. -/
theorem lex_of_mem_slicesOf {t : Text} {values : Components (Option Text)}
    (h : splitText t = .ok values) :
    ∃ ls, lex .lenient t = .ok ls ∧ ∀ s ∈ slicesOf t, ∃ v,
      values.get s.component = some v ∧ t.slice? s.first s.last = some v ∧
        lex .lenient v = .ok ((ls.filter (Lexeme.isBetween s.first s.last)).map
          (Lexeme.rebase s.first 0) ++ [⟨.finish, Text.utf8Size v, []⟩]) := by
  obtain ⟨ls, hls⟩ := exists_lexFrom_lenient 0 t
  obtain ⟨-, rfl⟩ := placed_of_lexFrom hls
  have hlex : lex .lenient (spelling ls) = .ok ls := hls
  refine ⟨ls, hlex, fun s hs => ?_⟩
  obtain ⟨⟨a, ha, hfirst⟩, ⟨b, hb, hlast⟩, v, hslice, hv⟩ := slice_of_mem_slicesOf hlex h hs
  have hle : a.start ≤ b.start := hfirst ▸ hlast ▸ Separated.le_of_slice? hslice
  obtain ⟨v', hslice', hread⟩ := lex_slice hlex ha hb hle
  rw [hfirst, hlast] at hslice' hread
  obtain rfl : v = v' := Option.some.inj (hslice.symm.trans hslice')
  exact ⟨v, hv, hslice, hread⟩

/-- `lex_of_mem_slicesOf` at parentheses that are no regular expressions in the whole text: one in
front of the question mark at which the path ends, and one in the query, as another group follows
behind the fragment's sign. Behind that sign `(c)` is a regular expression, in the whole text and in
the fragment alone. -/
theorem lex_of_mem_slicesOf_of_parentheses :
    ∃ values, splitText "http://h/(?(a#b(c))".toList = .ok values ∧
      slicesOf "http://h/(?(a#b(c))".toList =
        [⟨.protocol, 0, 4⟩, ⟨.hostname, 7, 8⟩, ⟨.pathname, 8, 10⟩, ⟨.search, 11, 13⟩,
          ⟨.hash, 14, 19⟩] ∧
      ∃ ls, lex .lenient "http://h/(?(a#b(c))".toList = .ok ls ∧
        ∀ s ∈ slicesOf "http://h/(?(a#b(c))".toList, ∃ v,
          values.get s.component = some v ∧
          Text.slice? "http://h/(?(a#b(c))".toList s.first s.last = some v ∧
          lex .lenient v = .ok ((ls.filter (Lexeme.isBetween s.first s.last)).map
            (Lexeme.rebase s.first 0) ++ [⟨.finish, Text.utf8Size v, []⟩]) := by
  have h : splitText "http://h/(?(a#b(c))".toList = .ok
      { protocol := some "http".toList, username := none, password := none,
        hostname := some ['h'], port := some [], pathname := some "/(".toList,
        search := some "(a".toList, hash := some "b(c))".toList } := by
    decide +kernel
  exact ⟨_, h, by decide +kernel, lex_of_mem_slicesOf h⟩

end UrlMatch.Fields
